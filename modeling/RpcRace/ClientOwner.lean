import RpcRace.Outcomes

/-!
# Whose answer it is

`listener_cb` replaces the client connection without a look at the race, and
the race logic writes to whatever connection is there.  A forwarded response
should go to the connection whose request is raced, and it should answer a
request of that connection; a close by the race logic should close that
connection.  Both can fail when a client is replaced at the wrong moment, and
`attributed_of_singleClient` says that nothing else makes them fail.
-/

namespace RpcRace.ClientOwner

open RpcRace.Library.CString
open RpcRace.Library.Run
open RpcRace.RpcConn
open RpcRace.JsonResponse
open RpcRace.RpcProxy
open RpcRace.Dispatch
open RpcRace.RaceMoves
open RpcRace.ProxyMoves
open RpcRace.SlotMoves
open RpcRace.Requests
open RpcRace.ClientMoves
open RpcRace.Outcomes

variable {n : Nat}

/-! ## Attribution -/

/-- The client connection that sent the latest request of a history. -/
def owner (trace : List (Effect n)) : Option Nat :=
  match requestPast trace with
  | .requestAccepted client _ _ _ :: _ => client
  | _ => none

/--
A response reaches only the connection whose request is raced, and only if
the request it answers came from that connection; without a connection it is
discarded.  The race logic closes only the connection whose request is raced.
-/
def Belongs (effect : Effect n) (past : List (Effect n)) : Prop :=
  match effect with
  | .forwarded node slot _ (some client) _ =>
      owner past = some client ∧ owner (startPast node slot past) = some client
  | .forwarded _ _ _ none written => written = 0
  | .closeClient (some client) true => owner past = some client
  | _ => True

instance (effect : Effect n) (past : List (Effect n)) : Decidable (Belongs effect past) :=
  match effect with
  | .forwarded _ _ _ (some _) _ => inferInstanceAs (Decidable (_ ∧ _))
  | .forwarded _ _ _ none written => inferInstanceAs (Decidable (written = 0))
  | .closeClient (some client) true => inferInstanceAs (Decidable (owner past = some client))
  | .closeClient none true | .closeClient none false | .closeClient (some _) false
  | .clientAccepted _
  | .requestAccepted _ _ _ _ | .started _ _ _ | .stickySent _ | .transferred _ _ _ _
  | .refreshed _ _ _ | .established _ _ | .delivered _ _ _ | .failed _ _ | .gaveUp _
  | .stickySet _ | .blockNotify | .raceCompleted | .timerStarted _ | .timerClosed _
  | .timerExpired _ _ => .isTrue trivial

/-- Everything the race logic did to a client, it did to the right one. -/
structure Attributed (proxy : Proxy n) : Prop where
  acts : AtEach Belongs proxy.trace

instance (proxy : Proxy n) : Decidable (Attributed proxy) :=
  decidable_of_iff (AtEach Belongs proxy.trace) ⟨Attributed.mk, Attributed.acts⟩

/--
No client is replaced while a request is raced, and a request is accepted
only while the slots in flight work for the same client connection.
-/
def SingleClient (env : Env) (proxy : Proxy n) (event : Event n) : Prop :=
  (registers event = true → proxy.race.state = .idle) ∧
    (acceptedMethod env proxy event ≠ none →
      ∀ node slot, (proxy.slot node slot).inFlight = true →
        owner (startPast node slot proxy.trace) = proxy.client.target)

instance (env : Env) (proxy : Proxy n) (event : Event n) :
    Decidable (SingleClient env proxy event) :=
  inferInstanceAs (Decidable (_ ∧ _))

/-! ## Histories -/

theorem isRequest_of_isPlain {effect : Effect n} (plain : isPlain effect = true) :
    isRequest effect = false := by
  simp only [isPlain, Bool.and_eq_true, Bool.not_eq_true'] at plain
  exact plain.2

theorem belongs_of_isPlain {effect : Effect n} (plain : isPlain effect = true)
    (past : List (Effect n)) :
    Belongs effect past := by
  cases effect with
  | forwarded => simp [isPlain, isForward] at plain
  | closeClient client byRace =>
      cases byRace with
      | true => simp [isPlain, isRaceClose] at plain
      | false => cases client <;> trivial
  | _ => trivial

section Plain

variable {added : List (Effect n)} (plain : ∀ effect ∈ added, isPlain effect = true)

include plain

theorem requestPast_plain (trace : List (Effect n)) :
    requestPast (added ++ trace) = requestPast trace :=
  requestPast_append (fun effect member => isRequest_of_isPlain (plain effect member)) trace

theorem owner_plain (trace : List (Effect n)) :
    owner (added ++ trace) = owner trace := by
  rw [owner, requestPast_plain plain, owner]

theorem attributed_plain {trace : List (Effect n)} (history : AtEach Belongs trace) :
    AtEach Belongs (added ++ trace) :=
  atEach_append (fun effect member past => belongs_of_isPlain (plain effect member) past) history

end Plain

/-- A new request belongs to the connection it came from. -/
theorem owner_request (proxy : Proxy n) (method : Memory) (trace : List (Effect n)) :
    owner (requestEffect proxy method :: trace) = proxy.client.target :=
  rfl

/-- A delivery is no send. -/
theorem startPast_deliveryEffects (proxy : Proxy n) (node : Fin n) (slot : Fin 2)
    (chunk : Memory) (stuck : Bool) (trace : List (Effect n)) :
    startPast node slot (deliveryEffects proxy node slot chunk stuck ++ trace) =
      startPast node slot trace := by
  cases stuck <;> simp [deliveryEffects, stickEffects, startPast, startsOn]

/-! ## The invariant -/

/-- What holds of the client and of the slots in flight. -/
structure Owned (proxy : Proxy n) : Prop where
  wellFormed : WellFormed proxy
  sound : TargetSound proxy.client
  history : AtEach Belongs proxy.trace
  client : proxy.race.state ≠ .idle →
    proxy.client.target = none ∨ proxy.client.target = owner proxy.trace
  slots : proxy.race.state ≠ .idle → ∀ node slot, (proxy.slot node slot).inFlight = true →
    owner (startPast node slot proxy.trace) = owner proxy.trace

/-- A response without a client connection is discarded. -/
theorem clientBytesWritten_of_target {client : Client} (sound : TargetSound client)
    (gone : client.target = none) (conn : UpstreamConn) (results : List SendResult) :
    clientBytesWritten client conn results = 0 := by
  have disconnected : client.connected = false := by
    rw [sound, gone]
    rfl
  simp [clientBytesWritten, disconnected]

/-- The race logic closes the connection whose request is raced, or none. -/
theorem belongs_close {target : Option Nat} {past : List (Effect n)}
    (owned : target = none ∨ target = owner past) :
    Belongs (.closeClient target true) past := by
  cases target with
  | none => trivial
  | some client =>
      rcases owned with gone | same
      · contradiction
      · exact same.symm

theorem step_owned (env : Env) (proxy : Proxy n) (event : Event n)
    (owned : Owned proxy) (guarded : SingleClient env proxy event) :
    Owned (step env proxy event) := by
  have wellFormed := step_wellFormed env proxy event owned.wellFormed
  have outcome := step_outcome env proxy event owned.wellFormed
  have change := step_clientChange env proxy event owned.wellFormed
  have busyCases := fun node slot => @step_busy_cases n env proxy event owned.wellFormed node slot
  have sound := change.targetSound owned.sound
  have history := owned.history
  generalize step env proxy event = result at outcome wellFormed change sound busyCases
  -- a slot in flight works for the request that is raced, if no request is new
  have slotsKept : requestPast result.trace = requestPast proxy.trace →
      proxy.race.state ≠ .idle → ∀ node slot, (result.slot node slot).inFlight = true →
        owner (startPast node slot result.trace) = owner result.trace := by
    intro same active node slot busy
    rcases busyCases node slot busy with current | ⟨wasBusy, past_eq⟩
    · rw [owner, current, ← owner]
    · rw [past_eq, owned.slots active node slot wasBusy, owner, owner, same]
  cases outcome with
  | quiet added trace plain state_eq winner_eq waiting =>
      refine ⟨wellFormed, sound, ?_, ?_, ?_⟩
      · rw [trace]
        exact attributed_plain plain history
      · intro active
        rw [state_eq] at active
        rw [trace, owner_plain plain]
        rcases change.target_cases with same | gone | ⟨registered, -, -⟩
        · rw [same]
          exact owned.client active
        · exact Or.inl gone
        · exact absurd (guarded.1 registered) active
      · intro active
        rw [state_eq] at active
        exact slotsKept (by rw [trace, requestPast_plain plain]) active
  | opened added chunk method bytes accepted trace plain idle active unwon target_eq =>
      have owner_eq : owner result.trace = proxy.client.target := by
        rw [trace, owner_plain plain, owner_request]
        rfl
      refine ⟨wellFormed, sound, ?_, ?_, ?_⟩
      · rw [trace]
        exact attributed_plain plain ⟨trivial, history⟩
      · intro _
        rw [owner_eq, target_eq]
        exact Or.inr rfl
      · intro _ node slot busy
        rcases busyCases node slot busy with current | ⟨wasBusy, past_eq⟩
        · rw [owner, current, ← owner]
        · rw [past_eq, owner_eq]
          exact guarded.2 (by simp [accepted]) node slot wasBusy
  | refused chunk method bytes accepted trace wasIdle idle target_eq =>
      refine ⟨wellFormed, sound, ?_, fun active => absurd idle active,
        fun active => absurd idle active⟩
      rw [trace]
      exact ⟨belongs_close (Or.inr rfl), trivial, history⟩
  | ended added trace plain active won idle waiting client_eq =>
      refine ⟨wellFormed, sound, ?_, fun active => absurd idle active,
        fun active => absurd idle active⟩
      rw [trace]
      exact attributed_plain plain history
  | forwarded later node slot chunk inIbd stuck connEvent results event_eq out trace plain
      complete active unwon chosen after client_eq =>
      have plainEarlier := isPlain_deliveryEffects proxy node slot chunk stuck
      have past_eq : requestPast result.trace = requestPast proxy.trace := by
        rw [trace, requestPast_plain plain]
        exact requestPast_plain plainEarlier proxy.trace
      have owner_eq : owner result.trace = owner proxy.trace := by
        rw [owner, owner, past_eq]
      have receiving := ((connOutcome_move out).of_response rfl).1
      have busy : (proxy.slot node slot).inFlight = true := by
        simp [UpstreamConn.inFlight, receiving]
      refine ⟨wellFormed, sound, ?_, ?_, fun _ => slotsKept past_eq active⟩
      · rw [trace]
        refine attributed_plain plain ⟨?_, attributed_plain plainEarlier history⟩
        cases target : proxy.client.target with
        | none =>
            simp only [forwardEffect, target, Belongs]
            exact clientBytesWritten_of_target owned.sound target _ results
        | some client =>
            simp only [forwardEffect, target, Belongs]
            rw [owner_plain plainEarlier, startPast_deliveryEffects,
              owned.slots active node slot busy]
            rcases owned.client active with gone | same
            · rw [gone] at target
              contradiction
            · rw [← same, target]
              exact ⟨rfl, rfl⟩
      · intro _
        rw [owner_eq, client_eq]
        exact owned.client active
  | closed later earlier trace plainLater plainEarlier active unwon idle waiting client_eq =>
      refine ⟨wellFormed, sound, ?_, fun active => absurd idle active,
        fun active => absurd idle active⟩
      rw [trace]
      refine attributed_plain plainLater ⟨belongs_close ?_, attributed_plain plainEarlier history⟩
      rw [owner_plain plainEarlier]
      exact owned.client active

theorem rpcProxyCreate_owned (boot : Boot n) : Owned (rpcProxyCreate boot) where
  wellFormed := rpcProxyCreate_wellFormed boot
  sound := rfl
  history := trivial
  client active := absurd rfl active
  slots active := absurd rfl active

/-! ## Runs -/

/--
As long as no client is replaced during a race or while slots of another
client are in flight, responses and closes reach the client that asked.
-/
theorem attributed_of_singleClient (env : Env) (boot : Boot n) (events : List (Event n))
    (guarded : Along (step env) (SingleClient env) (rpcProxyCreate boot) events) :
    Throughout (step env) Attributed (rpcProxyCreate boot) events := by
  apply Throughout.mono fun proxy (owned : Owned proxy) => ⟨owned.history⟩
  exact throughout_of_along (step_owned env) (rpcProxyCreate_owned boot) guarded

/--
A client is answered by the first of two nodes and asks again while the
second still works for it.  When the proxy is idle, another client connects
and is answered.
-/
def clientsInTurn : List (Event 2) :=
  [clientConnects, clientSends addressRequest,
    slotWrites 0 0 1000, slotWrites 1 0 1000,
    slotReads 0 0 doneResponse [.accepted 1000],
    clientSends blockRequest,
    slotReads 1 0 doneResponse [.accepted 1000],
    clientConnects, clientSends addressRequest,
    slotWrites 0 0 1000, slotWrites 1 0 1000,
    slotReads 1 0 doneResponse [.accepted 1000]]

theorem attributed_of_singleClient_clientsInTurn :
    Along (step exampleEnv) (SingleClient exampleEnv) (rpcProxyCreate (exampleBoot 2))
        clientsInTurn ∧
      Throughout (step exampleEnv) Attributed (rpcProxyCreate (exampleBoot 2))
        clientsInTurn := by
  have guarded : Along (step exampleEnv) (SingleClient exampleEnv)
      (rpcProxyCreate (exampleBoot 2)) clientsInTurn := by
    decide +kernel
  exact ⟨guarded, attributed_of_singleClient exampleEnv (exampleBoot 2) clientsInTurn guarded⟩

/-! ## A replaced client -/

/-- Another client connects while the request of the first one is raced. -/
def replacedClient : List (Event 1) :=
  [clientConnects, clientSends addressRequest,
    slotWrites 0 0 1000,
    clientConnects,
    slotReads 0 0 doneResponse [.accepted 1000]]

/-- The new client receives the answer to the request of the old one. -/
theorem replacedClient_not_attributed :
    ¬ Throughout (step exampleEnv) Attributed (rpcProxyCreate (exampleBoot 1))
      replacedClient := by
  intro attributed
  have wrong : ¬ Attributed (exampleRun 1 replacedClient) := by
    decide +kernel
  exact wrong (throughout_end attributed)

end RpcRace.ClientOwner
