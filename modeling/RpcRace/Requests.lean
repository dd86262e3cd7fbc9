import RpcRace.SlotMoves

/-!
# Which request a connection works for

The handlers keep no link between a connection and the request it carries.
Here the link is read off the trace: `startPast` is the history at the time
of the last send on a slot, and `requestPast` cuts a history off at the
request that was the latest then.  A slot works for the current request when
the two histories end with the same request.

The last part fixes a concrete installation, with its JSON texts and HTTP
messages, in which the runs of later modules take place.
-/

namespace RpcRace.Requests

open RpcRace.Library.CString
open RpcRace.Library.Run
open RpcRace.RpcConn
open RpcRace.PairMoves
open RpcRace.JsonResponse
open RpcRace.RpcProxy
open RpcRace.Dispatch
open RpcRace.ProxyMoves
open RpcRace.SlotMoves

variable {n : Nat}

/-! ## Histories -/

/-- The history up to the latest request, which is its first record. -/
def requestPast (trace : List (Effect n)) : List (Effect n) :=
  trace.dropWhile fun effect => !isRequest effect

/-- How many requests were passed to dispatch. -/
def requestNo (trace : List (Effect n)) : Nat :=
  trace.countP isRequest

/-- A response was passed to `send_upstream_response_to_client`. -/
def isForward : Effect n → Bool
  | .forwarded _ _ _ _ _ => true
  | _ => false

/-- A send on this slot. -/
def startsOn (node : Fin n) (slot : Fin 2) : Effect n → Bool
  | .started other index _ => other = node ∧ index = slot
  | _ => false

/-- The history before the last send on a slot. -/
def startPast (node : Fin n) (slot : Fin 2) : List (Effect n) → List (Effect n)
  | [] => []
  | effect :: past => if startsOn node slot effect then past else startPast node slot past

/-- The request in flight on a slot is the latest one that was accepted. -/
def Current (proxy : Proxy n) (node : Fin n) (slot : Fin 2) : Prop :=
  requestPast (startPast node slot proxy.trace) = requestPast proxy.trace

theorem requestPast_append {added : List (Effect n)}
    (silent : ∀ effect ∈ added, isRequest effect = false) (trace : List (Effect n)) :
    requestPast (added ++ trace) = requestPast trace := by
  unfold requestPast
  rw [List.dropWhile_append_of_pos]
  intro effect member
  simp [silent effect member]

theorem requestNo_requestPast (trace : List (Effect n)) :
    requestNo (requestPast trace) = requestNo trace := by
  induction trace with
  | nil => rfl
  | cons effect past induction =>
      unfold requestPast requestNo at *
      cases isRequest_eq : isRequest effect with
      | true => simp [isRequest_eq]
      | false => simpa [isRequest_eq] using induction

theorem startsOn_iff (node : Fin n) (slot : Fin 2) (effect : Effect n) :
    startsOn node slot effect = true ↔
      ∃ len, slotEffect node slot effect = some (.started len) := by
  cases effect <;> simp [startsOn, slotEffect]

/-- Without a send on the slot its history stays. -/
theorem startPast_append {node : Fin n} {slot : Fin 2} {added : List (Effect n)}
    (silent : ∀ len, .started len ∉ slotTrace node slot added) (trace : List (Effect n)) :
    startPast node slot (added ++ trace) = startPast node slot trace := by
  induction added with
  | nil => rfl
  | cons effect rest induction =>
      have other : startsOn node slot effect = false := by
        by_contra starts
        obtain ⟨len, equal⟩ := (startsOn_iff node slot effect).mp (by simpa using starts)
        exact silent len (by simp [slotTrace, equal])
      rw [List.cons_append, startPast, other]
      refine induction fun len member => silent len ?_
      simp only [slotTrace, List.filterMap_cons] at member ⊢
      split
      · exact member
      · exact List.mem_cons_of_mem _ member

/-- A send is made for the request that is the latest after the callback. -/
theorem requestPast_startPast_append {node : Fin n} {slot : Fin 2} {added : List (Effect n)}
    {len : Nat} (starts : .started len ∈ slotTrace node slot added)
    (silent : ∀ effect ∈ added, isRequest effect = false) (trace : List (Effect n)) :
    requestPast (startPast node slot (added ++ trace)) = requestPast (added ++ trace) := by
  induction added with
  | nil => simp at starts
  | cons effect rest induction =>
      have silentRest : ∀ effect ∈ rest, isRequest effect = false := fun other member =>
        silent other (List.mem_cons_of_mem _ member)
      have drop : requestPast (effect :: rest ++ trace) = requestPast (rest ++ trace) := by
        rw [requestPast_append silent, requestPast_append silentRest]
      rw [drop, List.cons_append, startPast]
      split_ifs with now
      · rfl
      · refine induction ?_ silentRest
        have other : ∀ len, slotEffect node slot effect ≠ some (.started len) := fun len equal =>
          now ((startsOn_iff node slot effect).mpr ⟨len, equal⟩)
        simp only [slotTrace, List.filterMap_cons] at starts ⊢
        split at starts
        · exact starts
        · rename_i kind equal
          rcases List.mem_cons.mp starts with rfl | member
          · exact absurd equal (other len)
          · exact member

/-! ## What a callback does to it -/

/-- A busy slot was busy before, or the callback sent on it. -/
theorem SlotMove.busy_cases {env : Env} {proxy : Proxy n} {event : Event n} {node : Fin n}
    {slot : Fin 2}
    {effects : List SlotEffect} {after : UpstreamConn}
    (move : SlotMove env proxy event node slot effects after) (busy : after.inFlight = true) :
    (∃ len, .started len ∈ effects) ∨
      (proxy.slot node slot).inFlight = true ∧ ∀ len, .started len ∉ effects := by
  cases move with
  | kept => exact Or.inr ⟨busy, by simp⟩
  | io outcome move => exact Or.inr ⟨move.inFlight_of_inFlight busy, by simp⟩
  | answered chunk inIbd receiving =>
      exact Or.inr ⟨by simp [UpstreamConn.inFlight, receiving], by simp⟩
  | answeredReset => simp at busy
  | broken after wasBusy down => simp [UpstreamConn.inFlight, down] at busy
  | started len => exact Or.inl ⟨len, by simp⟩
  | swept => simp at busy
  | refreshed result fd standby refreshable =>
      have down := closedStandby_state refreshable
      rw [refreshed_eq refreshable] at busy
      cases result <;> simp [UpstreamConn.inFlight, down] at busy

/-- Across a callback a busy slot was busy before, or it now works for the current request. -/
theorem step_busy_cases (env : Env) {proxy : Proxy n} (event : Event n)
    (wellFormed : WellFormed proxy) {node : Fin n} {slot : Fin 2}
    (busy : ((step env proxy event).slot node slot).inFlight = true) :
    Current (step env proxy event) node slot ∨
      (proxy.slot node slot).inFlight = true ∧
        startPast node slot (step env proxy event).trace = startPast node slot proxy.trace := by
  obtain ⟨added, trace, silent, moves⟩ := step_explained env proxy event wellFormed
  rcases SlotMove.busy_cases (moves node slot) busy with ⟨len, starts⟩ | ⟨wasBusy, noStart⟩
  · refine Or.inl ?_
    rw [Current, trace]
    exact requestPast_startPast_append starts silent _
  · refine Or.inr ⟨wasBusy, ?_⟩
    rw [trace, startPast_append noStart, startPast_append (by simp)]

/-- Without a new request the latest request stays. -/
theorem step_requestPast (env : Env) {proxy : Proxy n} (event : Event n)
    (wellFormed : WellFormed proxy) (waiting : acceptedMethod env proxy event = none) :
    requestPast (step env proxy event).trace = requestPast proxy.trace := by
  obtain ⟨added, trace, silent, -⟩ := step_explained env proxy event wellFormed
  rw [trace, requestPast_append silent, acceptedRequest_of_acceptedMethod waiting]
  rfl

/-! ## A concrete installation -/

/-- The JSON text of a call without parameters. -/
def callText (method : String) : Memory :=
  ascii "\x7b\"method\":\"" ++ ascii method ++ ascii "\"\x7d"

/-- The JSON text of a successful answer without a template. -/
def doneText : Memory :=
  ascii "\x7b\"result\":null,\"error\":null\x7d"

/-- The JSON text of an error answer. -/
def errorText : Memory :=
  ascii "\x7b\"result\":null,\"error\":\x7b\"code\":-28\x7d\x7d"

/-- The JSON text of a block template of a one-digit height. -/
def templateText (height : String) : Memory :=
  ascii "\x7b\"result\":\x7b\"height\":" ++ ascii height ++ ascii "\x7d,\"error\":null\x7d"

/-- The value of a call. -/
def callJson (method : String) : Json :=
  .obj [(ascii "method", .str (ascii method))]

/-- The value of a block template. -/
def templateJson (height : UInt64) : Json :=
  .obj [(ascii "result", .obj [(ascii "height", .uint height)]), (ascii "error", .null)]

/-- The texts that the installation exchanges, with their values. -/
def exampleTexts : List (Memory × Json) :=
  [(callText "getblocktemplate", callJson "getblocktemplate"),
    (callText "validateaddress", callJson "validateaddress"),
    (callText "submitblock", callJson "submitblock"),
    (doneText, .obj [(ascii "result", .null), (ascii "error", .null)]),
    (errorText, .obj [(ascii "result", .null),
      (ascii "error", .obj [(ascii "code", .sint (-28))])]),
    (templateText "1", templateJson 1),
    (templateText "2", templateJson 2),
    (templateText "3", templateJson 3)]

/-- A parser that is right about these texts. -/
def exampleRead : JsonReader := fun text =>
  (exampleTexts.find? fun entry => entry.1 = text).map Prod.snd

def exampleEnv : Env :=
  ⟨30000, exampleRead⟩

/-- All connections are established at once, over zeroed buffers. -/
def exampleBoot (n : Nat) : Boot n where
  clientBuf := List.replicate socketBufSize 0
  pair _ := ⟨fun _ => List.replicate socketBufSize 0, fun _ => .immediate⟩

/-- An HTTP message with a `Content-Length` field. -/
def httpMessage (firstLine length : String) (body : Memory) : Memory :=
  ascii firstLine ++ ascii "\r\nContent-Length: " ++ ascii length ++ ascii "\r\n\r\n" ++ body

def gbtRequest : Memory :=
  httpMessage "POST / HTTP/1.1" "29" (callText "getblocktemplate")

def addressRequest : Memory :=
  httpMessage "POST / HTTP/1.1" "28" (callText "validateaddress")

def blockRequest : Memory :=
  httpMessage "POST / HTTP/1.1" "24" (callText "submitblock")

def doneResponse : Memory :=
  httpMessage "HTTP/1.1 200 OK" "28" doneText

def errorResponse : Memory :=
  httpMessage "HTTP/1.1 500 Internal Server Error" "36" errorText

def templateResponse (height : String) : Memory :=
  httpMessage "HTTP/1.1 200 OK" "36" (templateText height)

/-- A client connects. -/
def clientConnects : Event n :=
  .accept (.accepted true)

/-- Bytes arrive from the client. -/
def clientSends (bytes : Memory) : Event n :=
  .client ⟨false, true, .data bytes, true⟩

/-- An event on a connection of a node, or nothing if there is no such connection. -/
def slotEvent (node slot : Nat) (event : ConnEvent) (results : List SendResult) : Event n :=
  if isNode : node < n then
    if isSlot : slot < 2 then .conn ⟨node, isNode⟩ ⟨slot, isSlot⟩ event results
    else .elapse 0
  else .elapse 0

/-- The kernel takes up to `count` bytes of a request. -/
def slotWrites (node slot count : Nat) : Event n :=
  slotEvent node slot ⟨false, false, true, false, .accepted count, .again⟩ []

/-- Bytes arrive from a node; `results` answers the writes to the client. -/
def slotReads (node slot : Nat) (bytes : Memory) (results : List SendResult) : Event n :=
  slotEvent node slot ⟨false, true, false, false, .again, .data bytes⟩ results

/-- A connection to a node breaks. -/
def slotFails (node slot : Nat) : Event n :=
  slotEvent node slot ⟨true, false, false, false, .again, .again⟩ []

/-- The rotation timer of a node expires. -/
def rotates (node : Nat) (result : ConnectResult) : Event n :=
  if isNode : node < n then .rotation ⟨node, isNode⟩ result else .elapse 0

/-- The state after some events of the installation. -/
def exampleRun (n : Nat) (events : List (Event n)) : Proxy n :=
  run (step exampleEnv) (rpcProxyCreate (exampleBoot n)) events

end RpcRace.Requests
