import RpcRace.DrainIsolation
import RpcRace.RequestBytes
import RpcRace.ConnectionReuse
import RpcRace.ClientOwner
import RpcRace.ClientStream

/-!
# The proxy in place of a node

For its client the proxy stands in the place of a single node: the client
asks, and reads one answer before it asks again.  `Session` is that view, and
says nothing of races, pairs or retries.  When every node implements a
service, the proxy implements it too, whichever node answers and however the
events of the connections are ordered: each client's session is a session of
the service, and the client has sent and received just what the session says.

The conditions are those under which requests, connections and clients are
kept apart, each of them needed for one part of the way from the client to a
node and back.
-/

namespace RpcRace.Transparency

open RpcRace.Library.CString
open RpcRace.Library.Run
open RpcRace.Library.Exchange (latestAnswer)
open RpcRace.RpcConn
open RpcRace.JsonResponse
open RpcRace.RpcProxy
open RpcRace.Dispatch
open RpcRace.RaceMoves
open RpcRace.ProxyMoves
open RpcRace.SlotMoves
open RpcRace.Requests
open RpcRace.ClientMoves
open RpcRace.DrainIsolation
open RpcRace.RequestBytes
open RpcRace.ConnectionReuse (Server WellFramed Stepping ServedBy SettledSweeps answersOf
  trafficOf connectionNo doneResponse_wellFramed templateResponse_wellFramed)
open RpcRace.Outcomes
open RpcRace.ClientOwner
open RpcRace.ClientStream

variable {n : Nat}

/-! ## Sessions of a service -/

section Session

variable {Request Answer : Type}

/-- What a client has been told, the latest first, and what it waits for. -/
structure Session (Request Answer : Type) where
  exchanges : List (Request × Answer)
  asked : Option Request

/-- The session of a client that has just connected. -/
def Session.opened : Session Request Answer :=
  ⟨[], none⟩

/-- The requests of a session, the latest first. -/
def Session.requests (session : Session Request Answer) : List Request :=
  session.asked.toList ++ session.exchanges.map Prod.fst

/-- The answers of a session, the latest first. -/
def Session.replies (session : Session Request Answer) : List Answer :=
  session.exchanges.map Prod.snd

/-- A service answers a request before the next one is asked, and answers it correctly. -/
inductive Session.Step (answers : Request → Answer → Prop) :
    Session Request Answer → Session Request Answer → Prop where
  | ask {exchanges : List (Request × Answer)} (request : Request) :
      Step answers ⟨exchanges, none⟩ ⟨exchanges, some request⟩
  | answer {exchanges : List (Request × Answer)} {request : Request} {reply : Answer}
      (correct : answers request reply) :
      Step answers ⟨exchanges, some request⟩ ⟨(request, reply) :: exchanges, none⟩

/-- The sessions that a service can come to. -/
def Session.Reached (answers : Request → Answer → Prop) (session : Session Request Answer) :
    Prop :=
  Relation.ReflTransGen (Session.Step answers) .opened session

end Session

/-! ## The session of a client of the proxy -/

/-- The responses passed to a client, each with the request that was raced then. -/
def exchangesOf (client : Nat) : List (Effect n) → List (Memory × Memory)
  | [] => []
  | effect :: past =>
      ((passedBy client effect).map fun passed =>
        (latestRequest past, passed.bytes)).toList ++ exchangesOf client past

/-- The request that an effect accepts from this client. -/
def requestBy (client : Nat) : Effect n → Option Memory
  | .requestAccepted (some other) request _ _ => if other = client then some request else none
  | _ => none

/-- The requests that were accepted from a client, the latest first. -/
def requestsOf (client : Nat) (trace : List (Effect n)) : List Memory :=
  trace.filterMap (requestBy client)

/-- The session of a client: it waits while its request is raced and has no winner. -/
def sessionOf (client : Nat) (proxy : Proxy n) : Session Memory Memory where
  exchanges := exchangesOf client proxy.trace
  asked :=
    if proxy.race.state ≠ .idle ∧ proxy.race.winnerIdx = none then
      some (latestRequest proxy.trace)
    else none

/--
The client that is connected has a session of the service.  Its requests are
all that were accepted from it, and its answers, one after the other, are all
the bytes that were written to it.
-/
structure Transparent (answers : Memory → Memory → Prop) (proxy : Proxy n) : Prop where
  reached : ∀ client, proxy.client.target = some client →
    (sessionOf client proxy).Reached answers
  requests : ∀ client, proxy.client.target = some client →
    requestsOf client proxy.trace = (sessionOf client proxy).requests
  received : ∀ client, proxy.client.target = some client →
    received client proxy.trace = (sessionOf client proxy).replies.reverse.flatten

/-! ## The conditions -/

/-- The nodes implement a service: what they answer to the bytes they have read is correct. -/
def Implements (server : Server n) (answers : Memory → Memory → Prop) (proxy : Proxy n) :
    Prop :=
  ∀ node slot, (proxy.slot node slot).state = .receiving →
    answers (sentBytes proxy node slot)
      (latestAnswer (answersOf server node slot (slotTrace node slot proxy.trace))
        (trafficOf (slotTrace node slot proxy.trace)))

/--
The nodes implement the service and answer in order.  Requests are accepted
when nothing is in flight, and clients when nothing is raced; the request
buffer is left alone while it is sent from, connections are reset only when
they are settled, and the client's socket takes its answers.
-/
structure Orderly (env : Env) (server : Server n) (answers : Memory → Memory → Prop)
    (proxy : Proxy n) (event : Event n) : Prop where
  implements : Implements server answers proxy
  served : ServedBy env server proxy event
  settled : SettledSweeps proxy event
  stable : StableBuffer proxy event
  quiet : QuietAcceptance env proxy event
  alone : registers event = true → proxy.race.state = .idle
  takes : TakesAll env proxy event

instance (server : Server n) (answers : Memory → Memory → Prop) [DecidableRel answers]
    (proxy : Proxy n) :
    Decidable (Implements server answers proxy) :=
  inferInstanceAs (Decidable (∀ _ _, _ → _))

instance (env : Env) (server : Server n) (answers : Memory → Memory → Prop)
    [DecidableRel answers] (proxy : Proxy n) (event : Event n) :
    Decidable (Orderly env server answers proxy event) :=
  decidable_of_iff
    (Implements server answers proxy ∧ ServedBy env server proxy event ∧
      SettledSweeps proxy event ∧ StableBuffer proxy event ∧ QuietAcceptance env proxy event ∧
      (registers event = true → proxy.race.state = .idle) ∧ TakesAll env proxy event)
    ⟨fun ⟨implements, served, settled, stable, quiet, alone, takes⟩ =>
        ⟨implements, served, settled, stable, quiet, alone, takes⟩,
      fun ⟨implements, served, settled, stable, quiet, alone, takes⟩ =>
        ⟨implements, served, settled, stable, quiet, alone, takes⟩⟩

/-! ## Histories -/

/-- The answers of a session are the bytes that were passed. -/
theorem exchangesOf_snd (client : Nat) (trace : List (Effect n)) :
    (exchangesOf client trace).map Prod.snd = (passedTo client trace).map Passed.bytes := by
  induction trace with
  | nil => rfl
  | cons effect past induction =>
      simp only [passedTo] at induction
      simp only [exchangesOf, passedTo, List.map_append, induction, List.filterMap_cons]
      cases passedBy client effect <;> rfl

section Plain

variable {added : List (Effect n)} (plain : ∀ effect ∈ added, isPlain effect = true)

include plain

theorem exchangesOf_plain (client : Nat) (trace : List (Effect n)) :
    exchangesOf client (added ++ trace) = exchangesOf client trace := by
  induction added with
  | nil => rfl
  | cons effect rest induction =>
      have silent := isForward_of_isPlain (plain effect List.mem_cons_self)
      have unpassed : passedBy client effect = none := by
        cases effect with
        | forwarded => simp [isForward] at silent
        | _ => rfl
      rw [List.cons_append, exchangesOf, unpassed,
        induction fun other member => plain other (List.mem_cons_of_mem _ member)]
      rfl

theorem requestsOf_plain (client : Nat) (trace : List (Effect n)) :
    requestsOf client (added ++ trace) = requestsOf client trace := by
  rw [requestsOf, List.filterMap_append, List.filterMap_eq_nil_iff.mpr, List.nil_append,
    requestsOf]
  intro effect member
  have silent := isRequest_of_isPlain (plain effect member)
  cases effect with
  | requestAccepted => simp [isRequest] at silent
  | _ => rfl

theorem latestRequest_plain (trace : List (Effect n)) :
    latestRequest (added ++ trace) = latestRequest trace := by
  rw [latestRequest, requestPast_plain plain, latestRequest]

end Plain

/-- The exchanges after one more response was forwarded to the client. -/
theorem exchangesOf_forward {proxy : Proxy n} {node : Fin n} {slot : Fin 2} {chunk : Memory}
    {inIbd stuck : Bool} {results : List SendResult} {later : List (Effect n)}
    (plain : ∀ effect ∈ later, isPlain effect = true) {client : Nat}
    (target : proxy.client.target = some client) :
    exchangesOf client
        (later ++ forwardEffect proxy node slot chunk inIbd results ::
          (deliveryEffects proxy node slot chunk stuck ++ proxy.trace)) =
      (latestRequest proxy.trace,
        ((proxy.slot node slot).absorb chunk).recvBuf.take
          (clientBytesWritten proxy.client
            { (proxy.slot node slot).absorb chunk with inIbd := inIbd } results)) ::
        exchangesOf client proxy.trace := by
  have earlier := isPlain_deliveryEffects proxy node slot chunk stuck
  rw [exchangesOf_plain plain, exchangesOf, exchangesOf_plain earlier,
    latestRequest_plain earlier]
  simp [forwardEffect, target, passedBy, Passed.bytes]

/-! ## The invariant -/

/-- What holds of the way from the client to the nodes and back. -/
structure Serving (server : Server n) (answers : Memory → Memory → Prop) (proxy : Proxy n) :
    Prop where
  stepping : Stepping server proxy
  intact : Intact proxy
  undivided : Undivided proxy
  streams : ClientStream.Served proxy
  usedBelow : ∀ client, requestsOf client proxy.trace ≠ [] → client < proxy.nextFd
  reached : ∀ client, proxy.client.target = some client →
    (sessionOf client proxy).Reached answers
  requests : ∀ client, proxy.client.target = some client →
    requestsOf client proxy.trace = (sessionOf client proxy).requests

theorem Serving.transparent {server : Server n} {answers : Memory → Memory → Prop}
    {proxy : Proxy n} (serving : Serving server answers proxy) :
    Transparent answers proxy := by
  refine ⟨serving.reached, serving.requests, ?_⟩
  intro client _
  rw [received, Session.replies, sessionOf, exchangesOf_snd, List.map_reverse]

/-! ## One callback -/

/-- A request is one of the client that sent it. -/
theorem requestsOf_request (proxy : Proxy n) (chunk method : Memory) (client : Nat)
    (trace : List (Effect n)) :
    requestsOf client (requestEffect (withChunk proxy chunk) method :: trace) =
      if proxy.client.target = some client then
        latestRequest (requestEffect (withChunk proxy chunk) method :: trace) ::
          requestsOf client trace
      else requestsOf client trace := by
  have target_eq : (withChunk proxy chunk).client.target = proxy.client.target := rfl
  have request_eq : latestRequest (requestEffect (withChunk proxy chunk) method :: trace) =
      (withChunk proxy chunk).client.recvBuf.take (withChunk proxy chunk).client.recvLen := rfl
  rw [requestsOf, List.filterMap_cons, requestsOf, request_eq, requestEffect, target_eq]
  cases proxy.client.target with
  | none => rfl
  | some other =>
      by_cases same : other = client
      · simp [requestBy, same]
      · simp [requestBy, same]

/-- While nothing is decided, a session stays as it is. -/
theorem sessionOf_quiet {proxy result : Proxy n} {added : List (Effect n)}
    (trace : result.trace = added ++ proxy.trace)
    (plain : ∀ effect ∈ added, isPlain effect = true)
    (state_eq : result.race.state = proxy.race.state)
    (winner_eq : result.race.winnerIdx = proxy.race.winnerIdx) (client : Nat) :
    sessionOf client result = sessionOf client proxy := by
  rw [sessionOf, sessionOf, trace, exchangesOf_plain plain, latestRequest_plain plain, state_eq,
    winner_eq]

/-- A client whose request is not raced waits for nothing. -/
theorem sessionOf_idle {proxy : Proxy n}
    (idle : proxy.race.state = .idle ∨ proxy.race.winnerIdx ≠ none) (client : Nat) :
    sessionOf client proxy = ⟨exchangesOf client proxy.trace, none⟩ := by
  rw [sessionOf, if_neg]
  rintro ⟨active, unwon⟩
  exact idle.elim active fun won => won unwon

theorem sessionOf_active {proxy : Proxy n} (active : proxy.race.state ≠ .idle)
    (unwon : proxy.race.winnerIdx = none) (client : Nat) :
    sessionOf client proxy =
      ⟨exchangesOf client proxy.trace, some (latestRequest proxy.trace)⟩ := by
  rw [sessionOf, if_pos ⟨active, unwon⟩]

section Serving

variable {server : Server n} {answers : Memory → Memory → Prop} {proxy : Proxy n}

/-- Nothing was said on a descriptor that does not exist yet. -/
theorem Serving.unused (serving : Serving server answers proxy) :
    exchangesOf proxy.nextFd proxy.trace = [] ∧ requestsOf proxy.nextFd proxy.trace = [] := by
  constructor
  · have unpassed : passedTo proxy.nextFd proxy.trace = [] := by
      by_contra used
      exact lt_irrefl _ (serving.streams.usedBelow _ used)
    have same := exchangesOf_snd proxy.nextFd proxy.trace
    rw [unpassed] at same
    exact List.map_eq_nil_iff.mp same
  · by_contra used
    exact lt_irrefl _ (serving.usedBelow _ used)

/-- A node that is being read from has read the latest request, and nothing else. -/
theorem Serving.sentBytes_eq (serving : Serving server answers proxy) {node : Fin n}
    {slot : Fin 2} (receiving : (proxy.slot node slot).state = .receiving) :
    sentBytes proxy node slot = latestRequest proxy.trace := by
  have busy : (proxy.slot node slot).inFlight = true := by
    simp [UpstreamConn.inFlight, receiving]
  have current := serving.undivided.current node slot busy
  rw [(serving.intact.faithful node slot).2 receiving, payload, latestRequest, current,
    latestRequest]

/-- A response that is delivered and forwarded is the node's answer to its last request. -/
theorem take_expected_of_forwarded {result : Proxy n} (stepping : Stepping server result)
    {node : Fin n} {slot : Fin 2} {chunk : Memory} {inIbd stuck : Bool}
    {results : List SendResult} {later : List (Effect n)}
    (trace : result.trace =
      later ++ forwardEffect proxy node slot chunk inIbd results ::
        (deliveryEffects proxy node slot chunk stuck ++ proxy.trace)) :
    ((proxy.slot node slot).absorb chunk).recvBuf.take
        ((proxy.slot node slot).absorb chunk).expected =
      latestAnswer (answersOf server node slot (slotTrace node slot proxy.trace))
        (trafficOf (slotTrace node slot proxy.trace)) := by
  have history : slotTrace node slot result.trace =
      slotTrace node slot later ++
        .delivered ((proxy.slot node slot).absorb chunk) :: .transferred [] chunk ::
          slotTrace node slot proxy.trace := by
    have delivery : slotTrace node slot (deliveryEffects proxy node slot chunk stuck) =
        [.delivered ((proxy.slot node slot).absorb chunk), .transferred [] chunk] := by
      cases stuck <;>
        simp [slotTrace, slotEffect, deliveryEffects, stickEffects, List.filterMap_cons]
    rw [trace, slotTrace_append]
    change _ ++ slotTrace node slot (deliveryEffects proxy node slot chunk stuck ++ _) = _
    rw [slotTrace_append, delivery]
    rfl
  have delivered := stepping.delivered node slot
  rw [history] at delivered
  exact delivered.of_append.1.2

/-- What is written to the client is a correct answer to the latest request. -/
theorem Serving.answers_forwarded {env : Env} {result : Proxy n} {event : Event n}
    (serving : Serving server answers proxy)
    (orderly : Orderly env server answers proxy event) (stepping : Stepping server result)
    {client : Nat} (target : proxy.client.target = some client)
    {node : Fin n} {slot : Fin 2} {chunk : Memory} {inIbd stuck : Bool} {connEvent : ConnEvent}
    {results : List SendResult} {later : List (Effect n)}
    (event_eq : event = .conn node slot connEvent results)
    (out : connOutcome proxy node slot connEvent =
      some ⟨(proxy.slot node slot).absorb chunk, some .response, [], chunk⟩)
    (trace : result.trace =
      later ++ forwardEffect proxy node slot chunk inIbd results ::
        (deliveryEffects proxy node slot chunk stuck ++ proxy.trace))
    (complete : rpcConnResponseComplete ((proxy.slot node slot).absorb chunk) = true)
    (active : proxy.race.state ≠ .idle) (unwon : proxy.race.winnerIdx = none)
    (chosen : responseIsError env.yyjsonRead ((proxy.slot node slot).absorb chunk) = false ∨
      proxy.race.responsesPending = 1) :
    answers (latestRequest proxy.trace)
      (((proxy.slot node slot).absorb chunk).recvBuf.take
        (clientBytesWritten proxy.client
          { (proxy.slot node slot).absorb chunk with inIbd := inIbd } results)) := by
  have connected : proxy.client.connected = true := by
    rw [serving.streams.sound, target]
    rfl
  have chosen_eq : chosenResponse env proxy event =
      some ((proxy.slot node slot).absorb chunk, results) := by
    subst event_eq
    simp only [chosenResponse, out, Option.bind_some]
    rw [if_pos ⟨trivial, active, unwon, chosen⟩]
  have takes := orderly.takes connected _ chosen_eq
  have written : clientBytesWritten proxy.client
      { (proxy.slot node slot).absorb chunk with inIbd := inIbd } results =
        ((proxy.slot node slot).absorb chunk).expected :=
    (clientBytesWritten_of_takes connected complete takes.1 takes.2).trans
      (Nat.mod_eq_of_lt takes.1).symm
  have receiving := ((connOutcome_move out).of_response rfl).1
  rw [written, take_expected_of_forwarded stepping trace, ← serving.sentBytes_eq receiving]
  exact orderly.implements node slot receiving

end Serving

theorem step_serving (env : Env) (server : Server n) (answers : Memory → Memory → Prop)
    (framed : ∀ node slot connection index, WellFramed (server node slot connection index))
    (proxy : Proxy n) (event : Event n) (serving : Serving server answers proxy)
    (orderly : Orderly env server answers proxy event) :
    Serving server answers (step env proxy event) := by
  have wellFormed := serving.stepping.wellFormed
  have stepping := ConnectionReuse.step_stepping env server framed proxy event serving.stepping
    ⟨orderly.served, orderly.settled⟩
  have intact := step_intact env proxy event serving.intact orderly.stable
  have undivided := step_undivided env proxy event serving.undivided orderly.quiet
  have streams := step_served env proxy event serving.streams orderly.takes
  have outcome := step_outcome env proxy event wellFormed
  have change := step_clientChange env proxy event wellFormed
  have grows := step_nextFd_le env proxy event wellFormed
  generalize step env proxy event = result at *
  have targets := change.target_cases
  have older : ∀ client, requestsOf client proxy.trace ≠ [] → client < result.nextFd :=
    fun client used => lt_of_lt_of_le (serving.usedBelow client used) grows
  -- a request comes from the client that is connected
  have newer : ∀ client chunk method,
      requestsOf client (requestEffect (withChunk proxy chunk) method :: proxy.trace) ≠ [] →
        client < result.nextFd := by
    intro client chunk method used
    rw [requestsOf_request] at used
    split_ifs at used with target
    · exact lt_of_lt_of_le (serving.streams.targetBelow client target) grows
    · exact older client used
  cases outcome with
  | quiet added trace plain state_eq winner_eq waiting =>
      have session_eq := sessionOf_quiet trace plain state_eq winner_eq
      have requests_eq : ∀ client, requestsOf client result.trace =
          requestsOf client proxy.trace := by
        intro client
        rw [trace, requestsOf_plain plain]
      -- a new client comes while nothing is raced, and has said nothing yet
      have fresh : registers event = true →
          sessionOf proxy.nextFd proxy = .opened ∧ requestsOf proxy.nextFd proxy.trace = [] := by
        intro registered
        have unused := serving.unused
        rw [sessionOf_idle (Or.inl (orderly.alone registered)), unused.1]
        exact ⟨rfl, unused.2⟩
      refine ⟨stepping, intact, undivided, streams, ?_, ?_, ?_⟩
      · intro client used
        rw [requests_eq] at used
        exact older client used
      · intro client target
        rw [session_eq]
        rcases targets with same | gone | ⟨registered, new, -⟩
        · exact serving.reached client (same ▸ target)
        · rw [gone] at target
          contradiction
        · rw [new, Option.some.injEq] at target
          rw [← target, (fresh registered).1]
          exact Relation.ReflTransGen.refl
      · intro client target
        rw [session_eq, requests_eq]
        rcases targets with same | gone | ⟨registered, new, -⟩
        · exact serving.requests client (same ▸ target)
        · rw [gone] at target
          contradiction
        · rw [new, Option.some.injEq] at target
          rw [← target, (fresh registered).1, (fresh registered).2]
          rfl
  | opened added chunk method bytes accepted trace plain idle active unwon target_eq =>
      refine ⟨stepping, intact, undivided, streams, ?_, ?_, ?_⟩
      · intro client used
        rw [trace, requestsOf_plain plain] at used
        exact newer client chunk method used
      · intro client target
        have before := serving.reached client (target_eq ▸ target)
        rw [sessionOf_idle (Or.inl idle)] at before
        have same : exchangesOf client result.trace = exchangesOf client proxy.trace := by
          rw [trace, exchangesOf_plain plain]
          rfl
        rw [sessionOf_active active unwon, same]
        exact before.tail (.ask _)
      · intro client target
        have before := serving.requests client (target_eq ▸ target)
        rw [sessionOf_idle (Or.inl idle)] at before
        rw [sessionOf_active active unwon, trace, requestsOf_plain plain, exchangesOf_plain plain,
          latestRequest_plain plain, requestsOf_request, if_pos (target_eq ▸ target), before]
        rfl
  | refused chunk method bytes accepted trace wasIdle idle target_eq =>
      refine ⟨stepping, intact, undivided, streams, ?_, ?_, ?_⟩
      · intro client used
        rw [trace] at used
        exact newer client chunk method used
      · intro client target
        rw [target_eq] at target
        contradiction
      · intro client target
        rw [target_eq] at target
        contradiction
  | ended added trace plain active won idle waiting client_eq =>
      have session_eq : ∀ client, sessionOf client result = sessionOf client proxy := by
        intro client
        rw [sessionOf_idle (Or.inl idle), sessionOf_idle (Or.inr won), trace,
          exchangesOf_plain plain]
      refine ⟨stepping, intact, undivided, streams, ?_, ?_, ?_⟩
      · intro client used
        rw [trace, requestsOf_plain plain] at used
        exact older client used
      · intro client target
        rw [session_eq]
        exact serving.reached client (client_eq ▸ target)
      · intro client target
        rw [session_eq, trace, requestsOf_plain plain]
        exact serving.requests client (client_eq ▸ target)
  | forwarded later node slot chunk inIbd stuck connEvent results event_eq out trace plain
      complete active unwon chosen after client_eq =>
      have requests_eq : ∀ client, requestsOf client result.trace =
          requestsOf client proxy.trace := by
        intro client
        rw [trace, requestsOf_plain plain]
        exact requestsOf_plain (isPlain_deliveryEffects proxy node slot chunk stuck) client _
      have answeredNow : ∀ client, proxy.client.target = some client →
          sessionOf client result =
            ⟨(latestRequest proxy.trace,
              ((proxy.slot node slot).absorb chunk).recvBuf.take
                (clientBytesWritten proxy.client
                  { (proxy.slot node slot).absorb chunk with inIbd := inIbd } results)) ::
                exchangesOf client proxy.trace, none⟩ := by
        intro client target
        rw [sessionOf_idle (after.imp_right And.right), trace, exchangesOf_forward plain target]
      refine ⟨stepping, intact, undivided, streams, ?_, ?_, ?_⟩
      · intro client used
        rw [requests_eq] at used
        exact older client used
      · intro client target
        rw [client_eq] at target
        have before := serving.reached client target
        rw [sessionOf_active active unwon] at before
        rw [answeredNow client target]
        exact before.tail (.answer (serving.answers_forwarded orderly stepping target event_eq
          out trace complete active unwon chosen))
      · intro client target
        rw [client_eq] at target
        have before := serving.requests client target
        rw [sessionOf_active active unwon] at before
        rw [requests_eq, before, answeredNow client target]
        rfl
  | closed later earlier trace plainLater plainEarlier active unwon idle waiting client_eq =>
      refine ⟨stepping, intact, undivided, streams, ?_, ?_, ?_⟩
      · intro client used
        rw [trace, requestsOf_plain plainLater] at used
        exact older client (requestsOf_plain plainEarlier client proxy.trace ▸ used)
      · intro client target
        rw [client_eq, close_target] at target
        contradiction
      · intro client target
        rw [client_eq, close_target] at target
        contradiction

theorem rpcProxyCreate_serving (server : Server n) (answers : Memory → Memory → Prop)
    (boot : Boot n) :
    Serving server answers (rpcProxyCreate boot) where
  stepping := ConnectionReuse.rpcProxyCreate_stepping server boot
  intact := rpcProxyCreate_intact boot
  undivided := rpcProxyCreate_undivided boot
  streams := rpcProxyCreate_served boot
  usedBelow := by simp [rpcProxyCreate, requestsOf]
  reached := by simp [rpcProxyCreate, Client.target]
  requests := by simp [rpcProxyCreate, Client.target]

/-! ## Runs -/

/-- A service with two requests, and nodes that have answered the first of them first. -/
def twoCalls (request reply : Memory) : Prop :=
  request = addressRequest ∧ reply = doneResponse ∨
    request = gbtRequest ∧ reply = templateResponse "1"

instance : DecidableRel twoCalls :=
  fun _ _ => inferInstanceAs (Decidable (_ ∨ _))

def twoCallsServer : Server 2 := fun _ _ _ index =>
  if index = 0 then doneResponse else templateResponse "1"

end RpcRace.Transparency
