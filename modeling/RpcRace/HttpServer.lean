import RpcRace.BlockNotify
import RpcRace.HexText
import RpcRace.RpcConn

/-!
# The HTTP server

`http_handle_request` of `http_server.c`, which cuts the method and the path
out of the text of a request, and `http_client_cb`, which collects that text.
A block hash is taken from the path `/NOTIFY/` and handed to the notifier.

The requests that reach the notifier are exactly those of one form
(`notifies_iff_asksNotify`).  How much of a response the kernel takes is left
out, and so are the log texts; what the handler of `/stats` does is a
parameter.
-/

namespace RpcRace.HttpServer

open RpcRace.Library.CString
open RpcRace.Library.Run
open RpcRace.HexText
open RpcRace.RpcConn (RecvResult)
open RpcRace.BlockNotify (BlockHash Config Notifier hashSize notifierProcessHash processCalls
  processCalls_notifierProcessHash)

variable {n : Nat}

/-! ## Responses -/

/-- The arguments of `http_send_response`. -/
structure Response where
  statusCode : Nat
  statusText : Memory
  contentType : Memory
  body : Memory
deriving DecidableEq, Repr

/-- A response of type `text/plain`. -/
def plainText (statusCode : Nat) (statusText body : String) : Response :=
  ⟨statusCode, ascii statusText, ascii "text/plain", ascii body⟩

def badRequest : Response :=
  plainText 400 "Bad Request" "Bad request\r\n"

def requestTooLarge : Response :=
  plainText 400 "Bad Request" "Request too large\r\n"

def methodNotAllowed : Response :=
  plainText 405 "Method Not Allowed" "Method not allowed\r\n"

def uriTooLong : Response :=
  plainText 414 "URI Too Long" "URI too long\r\n"

def invalidBlockHash : Response :=
  plainText 400 "Bad Request" "Invalid block hash\r\n"

def missingBlockHash : Response :=
  plainText 400 "Bad Request" "Missing block hash\r\n"

def notFound : Response :=
  plainText 404 "Not Found" "Not found\r\n"

def accepted : Response :=
  plainText 200 "OK" "OK\r\n"

/-- What comes of asking `stats_cb`. -/
inductive StatsAnswer where
  /-- There is no `stats_cb`. -/
  | unset
  | outOfMemory
  | failed
  | json (text : Memory)

/-- The response to `/stats`. -/
def statsResponse : StatsAnswer → Response
  | .unset =>
      ⟨503, ascii "Service Unavailable", ascii "application/json",
        ascii "\x7b\"error\":\"stats not available\"\x7d\r\n"⟩
  | .outOfMemory => plainText 500 "Internal Server Error" "Out of memory\r\n"
  | .failed => plainText 500 "Internal Server Error" "Stats error\r\n"
  | .json text => ⟨200, ascii "OK", ascii "application/json", text⟩

/-! ## Requests -/

/-- What the server reads of the configuration. -/
structure Server (n : Nat) where
  config : Config n
  host : Fin n → Memory

/-- The label of the first node with the peer's address, or the address itself. -/
def nodeLabel (server : Server n) (peerAddr : Memory) : Memory :=
  match (List.finRange n).find? fun node => server.host node = peerAddr with
  | none => peerAddr
  | some node => (server.config.nodes node).label

/-- `is_hex_char`. -/
def isHexChar (char : Byte) : Bool :=
  (48 ≤ char && char ≤ 57) || (97 ≤ char && char ≤ 102) || (65 ≤ char && char ≤ 70)

/-- A client's connection as seen by a handler. -/
structure Request where
  peerAddr : Memory
  stats : StatsAnswer

/-- The route `/NOTIFY/`, with what follows it in the path. -/
def handleNotify (server : Server n) (request : Request) (notifier : Notifier n)
    (hexStr : Memory) : Response × Notifier n :=
  if long : hexStr.length ≠ 64 then (invalidBlockHash, notifier)
  else if hexStr.all isHexChar = false then (invalidBlockHash, notifier)
  else
    match decoded : hexDecode hexStr with
    | none => (invalidBlockHash, notifier)
    | some bytes =>
        have size : bytes.length = hashSize := by
          have lengths := length_of_hexDecode decoded
          change bytes.length = 32
          omega
        (accepted, notifierProcessHash server.config notifier ⟨bytes, size⟩
          (some (nodeLabel server request.peerAddr)))

/-- `http_handle_request` from the first route on. -/
def route (server : Server n) (request : Request) (notifier : Notifier n) (path : Memory) :
    Response × Notifier n :=
  if path.take 8 = ascii "/NOTIFY/" then handleNotify server request notifier (path.drop 8)
  else if path = ascii "/stats" then (statsResponse request.stats, notifier)
  else if path = ascii "/NOTIFY" ∨ path = ascii "/NOTIFY/" then (missingBlockHash, notifier)
  else (notFound, notifier)

/-- `sizeof(path)`. -/
def pathSize : Nat := 512

/-- `http_handle_request` up to the first route: the path, or a refusal. -/
def requestPath (text : Memory) : Except Response Memory :=
  match memchr text 32 with
  | none => .error badRequest
  | some methodLen =>
      if methodLen ≠ 3 ∨ text.take 3 ≠ ascii "GET" then .error methodNotAllowed
      else
        match memchr (text.drop (methodLen + 1)) 32 with
        | none => .error badRequest
        | some pathLen =>
            if pathSize ≤ pathLen then .error uriTooLong
            else .ok ((text.drop (methodLen + 1)).take pathLen)

/-- `http_handle_request` of the string in `client->buf`. -/
def httpHandleRequest (server : Server n) (request : Request) (notifier : Notifier n)
    (buf : Memory) : Response × Notifier n :=
  match requestPath (cString buf) with
  | .error refusal => (refusal, notifier)
  | .ok path => route server request notifier path

/-! ## The grammar of `/NOTIFY` -/

/-- The text is `GET /NOTIFY/`, 64 hexadecimal digits and a space, and then anything. -/
def AsksNotify (text digits : Memory) : Prop :=
  digits.length = 64 ∧ digits.all isHexChar = true ∧
    ∃ rest, text = ascii "GET /NOTIFY/" ++ digits ++ 32 :: rest

/-- The path is what stands between `GET` and the next space. -/
theorem requestPath_eq_ok_iff {text path : Memory} :
    requestPath text = .ok path ↔
      (∃ rest, text = ascii "GET " ++ path ++ 32 :: rest) ∧ 32 ∉ path ∧
        path.length < pathSize := by
  constructor
  · intro taken
    unfold requestPath at taken
    split at taken
    · cases taken
    · rename_i methodLen method
      rcases memchr_eq_some_iff.mp method with ⟨front, after, rfl, -, rfl⟩
      split_ifs at taken with other
      push Not at other
      obtain rfl : front = ascii "GET" := by
        have get := other.2
        rwa [← other.1, List.take_left] at get
      have behind : (ascii "GET" ++ 32 :: after).drop ((ascii "GET").length + 1) = after := rfl
      rw [behind] at taken
      split at taken
      · cases taken
      · rename_i pathLen target
        rcases memchr_eq_some_iff.mp target with ⟨before, rest, rfl, spaceless, rfl⟩
        split_ifs at taken with long
        rw [List.take_left, Except.ok.injEq] at taken
        subst taken
        exact ⟨⟨rest, by simp [ascii]⟩, spaceless, Nat.not_le.mp long⟩
  · rintro ⟨⟨rest, rfl⟩, spaceless, short⟩
    have method : memchr (ascii "GET " ++ path ++ 32 :: rest) 32 = some 3 :=
      memchr_eq_some_iff.mpr ⟨ascii "GET", path ++ 32 :: rest, by simp [ascii], by decide, rfl⟩
    have get : (ascii "GET " ++ path ++ 32 :: rest).take 3 = ascii "GET" := rfl
    have behind : (ascii "GET " ++ path ++ 32 :: rest).drop (3 + 1) = path ++ 32 :: rest := rfl
    have target : memchr (path ++ 32 :: rest) 32 = some path.length :=
      memchr_eq_some_iff.mpr ⟨path, rest, rfl, spaceless, rfl⟩
    simp only [requestPath, method, get, ne_eq, not_true_eq_false, or_self, if_false, behind,
      target, Nat.not_le.mpr short, List.take_left]

/-- The two predicates for hexadecimal digits agree. -/
theorem isHexChar_eq (char : Byte) : isHexChar char = (hexCharVal char).isSome := by
  revert char
  apply forall_byte
  decide +kernel

section Grammar

variable (server : Server n) (request : Request) (notifier : Notifier n)

/-- 64 digits are accepted, and the hash they write is processed. -/
theorem handleNotify_of_digits {digits : Memory} (long : digits.length = 64)
    (hex : digits.all isHexChar = true) :
    ∃ hash : BlockHash, hexEncode hash.1 = digits.map toLower ∧
      handleNotify server request notifier digits =
        (accepted, notifierProcessHash server.config notifier hash
          (some (nodeLabel server request.peerAddr))) := by
  have valid : ∀ char ∈ digits, (hexCharVal char).isSome = true := by
    intro char member
    rw [← isHexChar_eq]
    exact List.all_eq_true.mp hex char member
  rcases decodePairs_of_digits (by rw [long]) valid with ⟨bytes, pairs⟩
  have decoded : hexDecode digits = some bytes := by
    rw [hexDecode, if_neg (by rw [long]; decide), pairs]
  have lengths := length_of_hexDecode decoded
  refine ⟨⟨bytes, by change bytes.length = 32; omega⟩, hexEncode_of_decodePairs pairs, ?_⟩
  unfold handleNotify
  rw [dif_neg (by simp [long]), if_neg (by simp [hex])]
  split
  · rename_i failed
    simp [decoded] at failed
  · rename_i others found
    obtain rfl : bytes = others := Option.some.inj (decoded.symm.trans found)
    rfl

/-- Anything else is refused. -/
theorem handleNotify_of_not {digits : Memory}
    (other : ¬ (digits.length = 64 ∧ digits.all isHexChar = true)) :
    handleNotify server request notifier digits = (invalidBlockHash, notifier) := by
  unfold handleNotify
  by_cases long : digits.length = 64
  · rw [dif_neg (by simp [long]), if_pos]
    by_contra hex
    exact other ⟨long, by simpa using hex⟩
  · rw [dif_pos long]

/-- Only the route `/NOTIFY/` touches the notifier. -/
theorem route_notifier {path : Memory} (other : path.take 8 ≠ ascii "/NOTIFY/") :
    (route server request notifier path).2 = notifier := by
  unfold route
  rw [if_neg other]
  split_ifs <;> rfl

/-- A request of the grammar is handed to the route `/NOTIFY/`. -/
theorem httpHandleRequest_of_asksNotify {buf digits : Memory}
    (asks : AsksNotify (cString buf) digits) :
    httpHandleRequest server request notifier buf =
      handleNotify server request notifier digits := by
  rcases asks with ⟨long, hex, rest, text⟩
  have spaceless : 32 ∉ ascii "/NOTIFY/" ++ digits := by
    rw [List.mem_append, not_or]
    refine ⟨by decide, fun member => ?_⟩
    have impossible := List.all_eq_true.mp hex 32 member
    exact absurd impossible (by decide)
  have short : (ascii "/NOTIFY/" ++ digits).length < pathSize := by
    rw [List.length_append, long]
    decide
  have path : requestPath (cString buf) = .ok (ascii "/NOTIFY/" ++ digits) :=
    requestPath_eq_ok_iff.mpr ⟨⟨rest, by rw [text]; rfl⟩, spaceless, short⟩
  rw [httpHandleRequest, path]
  exact if_pos rfl

/-- Any other request leaves the notifier alone. -/
theorem httpHandleRequest_of_not {buf : Memory}
    (other : ¬ ∃ digits, AsksNotify (cString buf) digits) :
    (httpHandleRequest server request notifier buf).2 = notifier := by
  unfold httpHandleRequest
  cases parsed : requestPath (cString buf) with
  | error refusal => rfl
  | ok path =>
      rcases requestPath_eq_ok_iff.mp parsed with ⟨⟨rest, text⟩, -, -⟩
      by_cases notify : path.take 8 = ascii "/NOTIFY/"
      · have refused := handleNotify_of_not server request notifier
          fun (valid : (path.drop 8).length = 64 ∧ (path.drop 8).all isHexChar = true) =>
            other ⟨path.drop 8, valid.1, valid.2, rest, by
              rw [text, ← List.take_append_drop 8 path, notify]; rfl⟩
        change (route server request notifier path).2 = notifier
        rw [route, if_pos notify, refused]
      · exact route_notifier server request notifier notify

/--
`notifier_process_hash` is called for the requests of the grammar and for no
others: once, with the hash whose encoding is the digits in lower case, and
the response is 200.  Encoding and decoding agree on every byte string.
-/
theorem notifies_iff_asksNotify (buf : Memory) :
    (∀ digits, AsksNotify (cString buf) digits →
      ∃ hash : BlockHash, hexEncode hash.1 = digits.map toLower ∧
        httpHandleRequest server request notifier buf =
          (accepted, notifierProcessHash server.config notifier hash
            (some (nodeLabel server request.peerAddr))) ∧
        (httpHandleRequest server request notifier buf).1.statusCode = 200 ∧
        processCalls (httpHandleRequest server request notifier buf).2.trace =
          (some (nodeLabel server request.peerAddr), hash) :: processCalls notifier.trace) ∧
    ((¬ ∃ digits, AsksNotify (cString buf) digits) →
      (httpHandleRequest server request notifier buf).2 = notifier) ∧
    ∀ bytes, bytes ≠ [] → hexDecode (hexEncode bytes) = some bytes := by
  refine ⟨?_, httpHandleRequest_of_not server request notifier, fun _ => hexDecode_hexEncode⟩
  intro digits asks
  rcases handleNotify_of_digits server request notifier asks.1 asks.2.1 with
    ⟨hash, encoded, handled⟩
  rw [httpHandleRequest_of_asksNotify server request notifier asks, handled]
  exact ⟨hash, encoded, rfl, rfl,
    processCalls_notifierProcessHash server.config notifier hash _⟩

end Grammar

/-! ## Clients -/

/-- `HTTP_MAX_REQUEST`. -/
def maxRequest : Nat := 2048

/--
A client that is still being read keeps room for one more byte and the
terminating zero: a request that fills the buffer is answered at once.
-/
inductive Client where
  | reading (buf : Memory) (room : buf.length < maxRequest - 1)
  | destroyed (response : Option Response)

/-- `http_client_cb` of a client that has sent `buf` so far. -/
def httpClientCb (server : Server n) (request : Request) (notifier : Notifier n) (buf : Memory)
    (room : buf.length < maxRequest - 1) : RecvResult → Client × Notifier n
  | .again => (.reading buf room, notifier)
  | .failed => (.destroyed none, notifier)
  | .data bytes =>
      let received := buf ++ bytes.take (maxRequest - buf.length - 1)
      if bytes = [] then (.destroyed none, notifier)
      else if (strstr received (ascii "\r\n\r\n")).isSome then
        let answered := httpHandleRequest server request notifier received
        (.destroyed (some answered.1), answered.2)
      else if full : maxRequest - 1 ≤ received.length then
        (.destroyed (some requestTooLarge), notifier)
      else (.reading received (Nat.not_le.mp full), notifier)

/-- A client's connection together with the notifier that all clients share. -/
structure Serving (n : Nat) where
  client : Client
  notifier : Notifier n

/-- What happens to a client and to the notifier. -/
inductive Event (n : Nat) where
  | readable (request : Request) (result : RecvResult)
  /-- A call into the notifier from elsewhere. -/
  | other (event : BlockNotify.Event n)

def step (server : Server n) (serving : Serving n) : Event n → Serving n
  | .other event =>
      { serving with notifier := BlockNotify.step server.config serving.notifier event }
  | .readable request result =>
      match serving.client with
      | .destroyed _ => serving
      | .reading buf room =>
          let after := httpClientCb server request serving.notifier buf room result
          ⟨after.1, after.2⟩

/-- To the notifier, a request is one report or nothing. -/
theorem httpHandleRequest_report (server : Server n) (request : Request) (notifier : Notifier n)
    (buf : Memory) :
    (httpHandleRequest server request notifier buf).2 = notifier ∨
      ∃ hash, (httpHandleRequest server request notifier buf).2 =
        BlockNotify.step server.config notifier
          (.report (some (nodeLabel server request.peerAddr)) hash) := by
  by_cases asked : ∃ digits, AsksNotify (cString buf) digits
  · rcases asked with ⟨digits, asks⟩
    rcases handleNotify_of_digits server request notifier asks.1 asks.2.1 with ⟨hash, -, handled⟩
    right
    exact ⟨hash, by rw [httpHandleRequest_of_asksNotify server request notifier asks, handled]; rfl⟩
  · left
    exact httpHandleRequest_of_not server request notifier asked

theorem httpClientCb_report (server : Server n) (request : Request) (notifier : Notifier n)
    (buf : Memory) (room : buf.length < maxRequest - 1) (result : RecvResult) :
    (httpClientCb server request notifier buf room result).2 = notifier ∨
      ∃ answer hash, httpClientCb server request notifier buf room result =
        (.destroyed answer, BlockNotify.step server.config notifier
          (.report (some (nodeLabel server request.peerAddr)) hash)) := by
  cases result with
  | again => exact Or.inl rfl
  | failed => exact Or.inl rfl
  | data bytes =>
      unfold httpClientCb
      dsimp only
      split_ifs
      · exact Or.inl rfl
      · rcases httpHandleRequest_report server request notifier
          (buf ++ bytes.take (maxRequest - buf.length - 1)) with same | ⟨hash, reported⟩
        · exact Or.inl same
        · exact Or.inr ⟨_, hash, by rw [reported]⟩
      · exact Or.inl rfl
      · exact Or.inl rfl

/-- To the notifier, a step of the server is one of its own steps or nothing. -/
theorem step_notifier (server : Server n) (serving : Serving n) (event : Event n) :
    (step server serving event).notifier = serving.notifier ∨
      ∃ reported, (step server serving event).notifier =
        BlockNotify.step server.config serving.notifier reported := by
  rcases serving with ⟨client, notifier⟩
  cases event with
  | other event => exact Or.inr ⟨event, rfl⟩
  | readable request result =>
      cases client with
      | destroyed response => exact Or.inl rfl
      | reading buf room =>
          rcases httpClientCb_report server request notifier buf room result with
            same | ⟨answer, hash, reported⟩
          · exact Or.inl same
          · right
            exact ⟨.report (some (nodeLabel server request.peerAddr)) hash,
              congrArg Prod.snd reported⟩

/-- Serving a client is, to the notifier, a run of reports. -/
theorem run_notifier (server : Server n) (serving : Serving n) (events : List (Event n)) :
    ∃ reported, (run (step server) serving events).notifier =
      run (BlockNotify.step server.config) serving.notifier reported :=
  run_simulates Serving.notifier (step_notifier server) serving events

/-! ## One call for a client -/

/-- Number of calls of `notifier_process_hash` so far. -/
def callCount (notifier : Notifier n) : Nat :=
  (processCalls notifier.trace).length

/-- The calls that a client can still cause. -/
def Client.allowance : Client → Nat
  | .reading _ _ => 1
  | .destroyed _ => 0

/-- The calls that come from elsewhere. -/
def Event.calls : Event n → Nat
  | .other (.report _ _) => 1
  | _ => 0

theorem callCount_report (config : Config n) (notifier : Notifier n) (label : Option Memory)
    (hash : BlockHash) :
    callCount (BlockNotify.step config notifier (.report label hash)) =
      callCount notifier + 1 := by
  rw [BlockNotify.step, callCount, processCalls_notifierProcessHash, List.length_cons, callCount]

theorem callCount_step (config : Config n) (notifier : Notifier n) (event : BlockNotify.Event n) :
    callCount (BlockNotify.step config notifier event) =
      callCount notifier + (Event.other event).calls := by
  cases event with
  | report label hash => exact callCount_report config notifier label hash
  | silenceCheck inIbd =>
      rcases BlockNotify.silenceCheckCb_warnings config inIbd notifier with
        ⟨warned, added, result, warnings⟩
      rw [BlockNotify.step, result, callCount, BlockNotify.processCalls_append warnings]
      rfl
  | elapse duration => rfl

/-- A call for a client uses up its allowance. -/
theorem httpClientCb_callCount (server : Server n) (request : Request) (notifier : Notifier n)
    (buf : Memory) (room : buf.length < maxRequest - 1) (result : RecvResult) :
    callCount (httpClientCb server request notifier buf room result).2 +
        (httpClientCb server request notifier buf room result).1.allowance ≤
      callCount notifier + 1 := by
  rcases httpClientCb_report server request notifier buf room result with
    same | ⟨answer, hash, reported⟩
  · have left : (httpClientCb server request notifier buf room result).1.allowance ≤ 1 := by
      cases (httpClientCb server request notifier buf room result).1 <;> simp [Client.allowance]
    rw [same]
    omega
  · rw [reported, callCount_report]
    exact Nat.le_refl _

theorem step_callCount (server : Server n) (serving : Serving n) (event : Event n) :
    callCount (step server serving event).notifier +
        (step server serving event).client.allowance ≤
      callCount serving.notifier + serving.client.allowance + event.calls := by
  rcases serving with ⟨client, notifier⟩
  cases event with
  | other event =>
      have counted := callCount_step server.config notifier event
      change callCount (BlockNotify.step server.config notifier event) + client.allowance ≤ _
      rw [counted]
      dsimp only
      omega
  | readable request result =>
      cases client with
      | destroyed response => exact Nat.le_refl _
      | reading buf room => exact httpClientCb_callCount server request notifier buf room result

/-- However a client's text arrives, it causes one call at most. -/
theorem run_callCount_le (server : Server n) (serving : Serving n) (events : List (Event n)) :
    callCount (run (step server) serving events).notifier ≤
      callCount serving.notifier + serving.client.allowance + (events.map Event.calls).sum := by
  induction events generalizing serving with
  | nil => exact Nat.le_add_right _ _
  | cons event rest induction =>
      have first := step_callCount server serving event
      have later := induction (step server serving event)
      rw [run_cons, List.map_cons, List.sum_cons]
      omega

end RpcRace.HttpServer
