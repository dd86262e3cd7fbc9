import RpcRace.ConnectionReuse
import RpcRace.Registration

/-!
# Declared lengths

Both framers add the length that a header declares to the length of the
header, in `size_t` arithmetic, and compare the sum with the bytes received.
`strtoull` yields any value of `size_t`: it reads huge numbers and accepts a
minus sign.  The sum of such a value and a header length wraps around, and the
message counts as complete although most of its body is not there.

`within_iff_unwrapped` says that this is the only way in which the declared
body of a complete message reaches beyond the bytes received.
-/

namespace RpcRace.DeclaredLengths

open RpcRace.Library.CString
open RpcRace.Library.Run
open RpcRace.RpcConn
open RpcRace.RpcProxy
open RpcRace.ProxyMoves
open RpcRace.Requests
open RpcRace.ConnectionReuse
open RpcRace.Registration

variable {n : Nat}

/--
A connection as a caller of `rpc_conn_get_response` can see it: between two
events, or in the callback at the end of `conn_epoll_cb`.
-/
def Visible (proxy : Proxy n) (node : Fin n) (slot : Fin 2) (conn : UpstreamConn) : Prop :=
  conn = proxy.slot node slot ∨
    ∃ event outcome, connOutcome proxy node slot event = some outcome ∧ conn = outcome.conn

/-- The header length of a request plus its declared body length, as natural numbers. -/
def requestLength (client : Client) : Option Nat :=
  (findHeaderEnd (client.recvBuf.take client.recvLen)).map fun headerEnd =>
    headerEnd + contentLengthField client.recvBuf headerEnd

/-! ## Receive buffers are shorter than the address space -/

theorem length_of_storedChunk {proxy : Proxy n} {event : Event n} {chunk : Memory}
    (stored : storedChunk proxy event = some chunk) :
    chunk.length ≤ socketBufSize - proxy.client.recvLen := by
  cases event with
  | client event =>
      simp only [storedChunk, Option.ite_none_right_eq_some] at stored
      rcases stored with ⟨-, read⟩
      cases result : event.recvResult with
      | data bytes =>
          simp only [result, Option.ite_none_left_eq_some, Option.some.injEq] at read
          rw [← read.2]
          exact List.length_take_le _ _
      | again => simp [result] at read
      | failed => simp [result] at read
  | _ => simp [storedChunk] at stored

theorem lengthAfter_le {proxy : Proxy n} (fits : proxy.client.recvLen ≤ socketBufSize)
    (event : Event n) :
    lengthAfter proxy event ≤ socketBufSize := by
  unfold lengthAfter
  cases stored : storedChunk proxy event with
  | none => exact fits
  | some chunk =>
      have short := length_of_storedChunk stored
      change proxy.client.recvLen + chunk.length ≤ socketBufSize
      omega

/-- No more bytes of a request are stored than the buffer holds. -/
theorem run_recvLen_le (env : Env) (boot : Boot n) (events : List (Event n)) :
    (run (step env) (rpcProxyCreate boot) events).client.recvLen ≤ socketBufSize := by
  have keep : ∀ (proxy : Proxy n) event,
      WellFormed proxy ∧ proxy.client.recvLen ≤ socketBufSize →
      WellFormed (step env proxy event) ∧
        (step env proxy event).client.recvLen ≤ socketBufSize := by
    rintro proxy event ⟨wellFormed, fits⟩
    exact ⟨step_wellFormed env proxy event wellFormed,
      (step_recvLen_le env proxy event wellFormed).trans (lengthAfter_le fits event)⟩
  exact (run_invariant keep ⟨rpcProxyCreate_wellFormed boot, Nat.zero_le _⟩ events).2

theorem Visible.received {env : Env} {boot : Boot n} {events : List (Event n)} {node : Fin n}
    {slot : Fin 2} {conn : UpstreamConn}
    (visible : Visible (run (step env) (rpcProxyCreate boot) events) node slot conn) :
    conn.recvLen ≤ socketBufSize := by
  have shaped := run_shaped env boot events node slot
  rcases visible with rfl | ⟨event, outcome, out, rfl⟩
  · exact shaped.received
  · exact (ConnMove.shaped (connOutcome_move out) shaped).received

/-! ## Sums that wrap around -/

/-- A message that counts as complete is so unless its length was computed with a wrap-around. -/
theorem le_iff_of_mod_le {total received : Nat} (short : received ≤ socketBufSize)
    (complete : total % sizeModulus ≤ received) :
    total ≤ received ↔ total < sizeModulus := by
  have small : socketBufSize < sizeModulus := by decide
  constructor
  · intro within
    exact within.trans_lt (short.trans_lt small)
  · intro unwrapped
    rwa [Nat.mod_eq_of_lt unwrapped] at complete

theorem complete_of_getResponse {conn : UpstreamConn} {body : Memory}
    (response : rpcConnGetResponse conn = some body) :
    (conn.headerLen + conn.contentLength) % sizeModulus ≤ conn.recvLen := by
  have complete : rpcConnResponseComplete conn = true := by
    by_contra incomplete
    simp [rpcConnGetResponse, incomplete] at response
  rw [rpcConnResponseComplete, Bool.and_eq_true, decide_eq_true_eq] at complete
  exact complete.2

theorem complete_of_parseHttpRequest {client : Client} {total : Nat}
    (complete : parseHttpRequest client = true) (declared : requestLength client = some total) :
    total % sizeModulus ≤ client.recvLen := by
  rcases Option.map_eq_some_iff.mp declared with ⟨headerEnd, found, rfl⟩
  rw [parseHttpRequest, found] at complete
  exact of_decide_eq_true complete

/--
The declared body of a response that `rpc_conn_get_response` returns, and of a
request that `parse_http_request` accepts, lies within the bytes received
exactly if its end is below `2^64`.
-/
theorem within_iff_unwrapped (env : Env) (boot : Boot n) (events : List (Event n)) :
    (∀ node slot conn body,
        Visible (run (step env) (rpcProxyCreate boot) events) node slot conn →
        rpcConnGetResponse conn = some body →
        (conn.headerLen + conn.contentLength ≤ conn.recvLen ↔
          conn.headerLen + conn.contentLength < sizeModulus)) ∧
      ∀ event chunk total,
        storedChunk (run (step env) (rpcProxyCreate boot) events) event = some chunk →
        parseHttpRequest
          (withChunk (run (step env) (rpcProxyCreate boot) events) chunk).client = true →
        requestLength
          (withChunk (run (step env) (rpcProxyCreate boot) events) chunk).client = some total →
        (total ≤ (withChunk (run (step env) (rpcProxyCreate boot) events) chunk).client.recvLen ↔
          total < sizeModulus) := by
  constructor
  · intro node slot conn body visible response
    exact le_iff_of_mod_le visible.received (complete_of_getResponse response)
  · intro event chunk total stored complete declared
    have short := lengthAfter_le (run_recvLen_le env boot events) event
    rw [lengthAfter, stored] at short
    exact le_iff_of_mod_le short (complete_of_parseHttpRequest complete declared)

/-! ## Lengths near the end of the address space -/

/-- A response that declares the largest `size_t` and has no body. -/
def hugeResponse : Memory :=
  httpMessage "HTTP/1.1 200 OK" "18446744073709551615" []

/-- A request that declares a body of minus one byte. -/
def negativeRequest : Memory :=
  httpMessage "POST / HTTP/1.1" "-1" []

/-- A request was sent to the only node. -/
def awaitingResponse : List (Event 1) :=
  [clientConnects, clientSends addressRequest, slotWrites 0 0 1000]

/-- The response arrives. -/
def hugeRead : ConnEvent :=
  ⟨false, true, false, false, .again, .data hugeResponse⟩

/-- Both count as complete, and their declared bodies end far beyond what was received. -/
theorem declared_beyond_received :
    (∃ conn body,
        Visible (exampleRun 1 awaitingResponse) 0 0 conn ∧
        rpcConnGetResponse conn = some body ∧
        ¬ conn.headerLen + conn.contentLength ≤ conn.recvLen) ∧
      ∃ total,
        storedChunk (exampleRun 1 [clientConnects]) (clientSends negativeRequest) =
          some negativeRequest ∧
        parseHttpRequest
          (withChunk (exampleRun 1 [clientConnects]) negativeRequest).client = true ∧
        requestLength
          (withChunk (exampleRun 1 [clientConnects]) negativeRequest).client = some total ∧
        ¬ total ≤ (withChunk (exampleRun 1 [clientConnects]) negativeRequest).client.recvLen := by
  have response : ((connOutcome (exampleRun 1 awaitingResponse) 0 0 hugeRead).any fun outcome =>
      rpcConnResponseComplete outcome.conn &&
        !decide (outcome.conn.headerLen + outcome.conn.contentLength ≤ outcome.conn.recvLen)) =
      true := by
    decide +kernel
  have request :
      storedChunk (exampleRun 1 [clientConnects]) (clientSends negativeRequest) =
          some negativeRequest ∧
        parseHttpRequest
          (withChunk (exampleRun 1 [clientConnects]) negativeRequest).client = true ∧
        (requestLength (withChunk (exampleRun 1 [clientConnects]) negativeRequest).client).any
          (fun total => !decide (total ≤
            (withChunk (exampleRun 1 [clientConnects]) negativeRequest).client.recvLen)) =
          true := by
    decide +kernel
  constructor
  · rcases (Option.any_eq_true _ _).mp response with ⟨outcome, out, facts⟩
    rw [Bool.and_eq_true, Bool.not_eq_true', decide_eq_false_iff_not] at facts
    exact ⟨outcome.conn, _, Or.inr ⟨hugeRead, outcome, out, rfl⟩, if_pos facts.1, facts.2⟩
  · rcases request with ⟨stored, complete, declared⟩
    rcases (Option.any_eq_true _ _).mp declared with ⟨total, total_eq, beyond⟩
    rw [Bool.not_eq_true', decide_eq_false_iff_not] at beyond
    exact ⟨total, stored, complete, total_eq, beyond⟩

end RpcRace.DeclaredLengths
