import RpcRace.HttpServer
import RpcRace.Relays

/-!
# From one instance to the next

The HTTP relay of one instance may point at the HTTP server of another, with
`notify_http_url` ending in `/NOTIFY/%s`.  The requests of the relay are then
what the server takes for a notification.

`firstMessage_forwarded` follows one connection: whatever the relay wrote to
it, and however the bytes arrive, the notifier of the second instance gets one
report.  It is of the hash that was written first.  The server closes a
connection after one request while the relay keeps using it, so a later message
on the same connection is not forwarded.
-/

namespace RpcRace.NotifyHops

open RpcRace.Library.CString
open RpcRace.Library.Numeral
open RpcRace.Library.Run
open RpcRace.Library.Sending
open RpcRace.HexText
open RpcRace.NotifyUrl
open RpcRace.RpcConn (RecvResult)
open RpcRace.BlockNotify (BlockHash Notifier)
open RpcRace.HttpServer (Server Serving Request Client httpClientCb httpHandleRequest nodeLabel
  accepted maxRequest AsksNotify isHexChar)

variable {n : Nat}

/-! ## The messages of the relay -/

/-- The end of a request. -/
def emptyLine : Memory :=
  ascii "\r\n\r\n"

/-- The request for a hash, where the path is `/NOTIFY/%s`. -/
def message (parts : UrlParts) (hash : BlockHash) : Memory :=
  requestText parts (ascii "/NOTIFY/" ++ hexEncode hash.1)

/-- The message up to the host, which is the first part that is configured. -/
def messageHead (hash : BlockHash) : Memory :=
  ascii "GET /NOTIFY/" ++ (hexEncode hash.1 ++ ascii " HTTP/1.1\r\nHost: ")

/-- A URL for the server of another instance. -/
structure Target (url : Memory) (parts : UrlParts) : Prop where
  parsed : parseHttpUrl hostSize pathSize url = some parts
  path : parts.path = ascii "/NOTIFY/%s"

section Messages

variable {url : Memory} {parts : UrlParts}

theorem Target.host_clean (target : Target url parts) : 0 ∉ parts.host := by
  rcases parseHttpUrl_eq_some_iff.mp target.parsed with ⟨portText, rest, text, -⟩
  have clean := zero_notMem_cString url
  rw [text] at clean
  simp only [List.mem_append, not_or] at clean
  exact clean.2.1

theorem buildPath_template (hash : BlockHash) :
    buildPath (ascii "/NOTIFY/%s") hash = .ok (ascii "/NOTIFY/" ++ hexEncode hash.1) := by
  have found : strstr (ascii "/NOTIFY/%s") (ascii "%s") = some 8 := by decide +kernel
  have front : (ascii "/NOTIFY/%s").take 8 = ascii "/NOTIFY/" := by decide +kernel
  have behind : (ascii "/NOTIFY/%s").drop (8 + 2) = [] := by decide +kernel
  have short : ¬ pathBufSize ≤ (ascii "/NOTIFY/" ++ hexEncode hash.1).length := by
    rw [List.length_append, length_hash]
    decide +kernel
  simp only [buildPath, found, front, behind, List.append_nil, if_neg short]

/-- What the relay builds is the message, which fits its buffer. -/
theorem Target.buildRequest_eq (target : Target url parts) (hash : BlockHash) :
    buildRequest parts hash = .ok (message parts hash) ∧
      (message parts hash).length < requestSize := by
  rcases buildRequest_of_fits (fits_of_parseHttpUrl target.parsed) hash with ⟨other, built, -⟩
  have unfolded : buildRequest parts hash =
      if requestSize ≤ (message parts hash).length then .error .requestTooLong
      else .ok (message parts hash) := by
    rw [buildRequest, target.path, buildPath_template]
    rfl
  by_cases long : requestSize ≤ (message parts hash).length
  · rw [unfolded, if_pos long] at built
    cases built
  · exact ⟨by rw [unfolded, if_neg long], Nat.not_le.mp long⟩

theorem message_eq (parts : UrlParts) (hash : BlockHash) :
    message parts hash = messageHead hash ++ (parts.host ++ (ascii ":" ++
      (decimalText parts.port.toNat ++ (ascii "\r\nConnection: keep-alive" ++ emptyLine)))) := by
  have start : ascii "GET /NOTIFY/" = ascii "GET " ++ ascii "/NOTIFY/" := rfl
  have ending : ascii "\r\nConnection: keep-alive\r\n\r\n" =
      ascii "\r\nConnection: keep-alive" ++ emptyLine := rfl
  simp only [message, requestText, messageHead, start, ending, List.append_assoc]

theorem notMem_hexEncode {char : Byte} (other : char ∉ hexChars) (bytes : Memory) :
    char ∉ hexEncode bytes :=
  fun member => other (mem_hexChars_of_mem member)

theorem zero_notMem_messageHead (hash : BlockHash) : 0 ∉ messageHead hash := by
  simp only [messageHead, List.mem_append, not_or]
  exact ⟨by decide +kernel, notMem_hexEncode (by decide +kernel) _, by decide +kernel⟩

/-- The head has one carriage return, so no empty line is in it. -/
theorem not_emptyLine_infix_messageHead (hash : BlockHash) :
    ¬ emptyLine <:+: messageHead hash := by
  intro inside
  have counts := inside.sublist.count_le 13
  have digits : (hexEncode hash.1).count 13 = 0 :=
    List.count_eq_zero.mpr (notMem_hexEncode (by decide +kernel) _)
  have start : (ascii "GET /NOTIFY/").count 13 = 0 := by decide +kernel
  have ending : (ascii " HTTP/1.1\r\nHost: ").count 13 = 1 := by decide +kernel
  have twice : emptyLine.count 13 = 2 := by decide +kernel
  rw [messageHead, List.count_append, List.count_append, digits, start, ending, twice] at counts
  omega

theorem Target.zero_notMem_message (target : Target url parts) (hash : BlockHash) :
    0 ∉ message parts hash := by
  rw [message_eq]
  simp only [List.mem_append, not_or]
  refine ⟨zero_notMem_messageHead hash, target.host_clean, by decide +kernel, ?_,
    by decide +kernel, by decide +kernel⟩
  intro member
  have digit := isDigit_of_mem_decimalText member
  exact absurd digit (by decide)

end Messages

/-! ## The beginning of a stream -/

/-- The text begins with the message for this hash, or is a part of it. -/
def Begins (parts : UrlParts) (hash : BlockHash) (text : Memory) : Prop :=
  text <+: message parts hash ∨ message parts hash <+: text

section Beginnings

variable {url : Memory} {parts : UrlParts} {hash : BlockHash} {text : Memory}

theorem Begins.of_isPrefix {part : Memory} (begins : Begins parts hash text)
    (within : part <+: text) :
    Begins parts hash part := by
  rcases begins with short | long
  · exact Or.inl (within.trans short)
  · exact List.prefix_or_prefix_of_prefix within long

theorem messageHead_isPrefix (parts : UrlParts) (hash : BlockHash) :
    messageHead hash <+: message parts hash := by
  rw [message_eq]
  exact List.prefix_append _ _

/-- A text with an empty line in it has the whole head. -/
theorem Begins.messageHead_isPrefix_of_found (begins : Begins parts hash text)
    (found : (strstr text emptyLine).isSome = true) :
    messageHead hash <+: text := by
  have inside : emptyLine <:+: text := by
    by_contra absent
    have none_ : ¬ emptyLine <:+: cString text := fun part =>
      absent (part.trans (List.takeWhile_prefix _).isInfix)
    rw [strstr, findText_eq_none_iff.mpr none_] at found
    cases found
  have either : messageHead hash <+: text ∨ text <+: messageHead hash := by
    rcases begins with short | long
    · exact List.prefix_or_prefix_of_prefix (messageHead_isPrefix parts hash) short
    · exact Or.inl ((messageHead_isPrefix parts hash).trans long)
  rcases either with whole | cut
  · exact whole
  · exact absurd (inside.trans cut.isInfix) (not_emptyLine_infix_messageHead hash)

theorem isHexChar_hexEncode (bytes : Memory) : (hexEncode bytes).all isHexChar = true := by
  refine List.all_eq_true.mpr fun char member => ?_
  have all : ∀ char ∈ hexChars, isHexChar char = true := by decide +kernel
  exact all char (mem_hexChars_of_mem member)

theorem map_toLower_hexEncode (bytes : Memory) :
    (hexEncode bytes).map toLower = hexEncode bytes := by
  have all : ∀ char ∈ hexChars, toLower char = char := by decide +kernel
  calc
    (hexEncode bytes).map toLower = (hexEncode bytes).map id :=
      List.map_congr_left fun char member => all char (mem_hexChars_of_mem member)
    _ = hexEncode bytes := List.map_id _

/-- It asks for a notification of this hash. -/
theorem Begins.asksNotify (begins : Begins parts hash text)
    (found : (strstr text emptyLine).isSome = true) :
    AsksNotify (cString text) (hexEncode hash.1) := by
  rcases begins.messageHead_isPrefix_of_found found with ⟨rest, rfl⟩
  refine ⟨length_hash hash, isHexChar_hexEncode _,
    ascii "HTTP/1.1\r\nHost: " ++ cString rest, ?_⟩
  rw [cString_append (zero_notMem_messageHead hash)]
  have blank : ascii " HTTP/1.1\r\nHost: " = 32 :: ascii "HTTP/1.1\r\nHost: " := rfl
  simp only [messageHead, blank, List.append_assoc, List.cons_append]

/-- A whole message has an empty line. -/
theorem Target.found_of_whole (target : Target url parts) (whole : message parts hash <+: text) :
    (strstr text emptyLine).isSome = true := by
  rcases whole with ⟨rest, rfl⟩
  by_contra absent
  have none_ : ¬ emptyLine <:+: cString (message parts hash ++ rest) :=
    findText_eq_none_iff.mp (by simpa [strstr] using absent)
  apply none_
  rw [cString_append (target.zero_notMem_message hash)]
  refine List.IsInfix.trans ?_ (List.prefix_append _ _).isInfix
  rw [message_eq]
  refine List.IsSuffix.isInfix ?_
  simp only [← List.append_assoc]
  exact List.suffix_append _ _

/-- A text that fills the buffer of the server has the whole message. -/
theorem Target.whole_of_full (target : Target url parts) (begins : Begins parts hash text)
    (full : maxRequest - 1 ≤ text.length) :
    message parts hash <+: text := by
  rcases begins with short | long
  · have fits := (target.buildRequest_eq hash).2
    have within := short.length_le
    have sizes : maxRequest - 1 = 2047 ∧ requestSize = 2048 := by decide +kernel
    rw [short.eq_of_length (by omega)]
  · exact long

end Beginnings

/-! ## The server of the next instance -/

/-- The bytes that have arrived. -/
def arrived : List (HttpServer.Event n) → Memory
  | [] => []
  | .readable _ (.data bytes) :: rest => bytes ++ arrived rest
  | _ :: rest => arrived rest

/-- What happens to the notifier apart from the client. -/
def others (events : List (HttpServer.Event n)) : List (BlockNotify.Event n) :=
  events.filterMap fun
    | .other event => some event
    | .readable _ _ => none

/-- A read that brings bytes or would block; the connection neither fails nor ends. -/
def Flows : HttpServer.Event n → Prop
  | .readable _ (.data bytes) => bytes ≠ []
  | .readable _ .failed => False
  | _ => True

/-- A client that has sent nothing yet. -/
def freshClient : Client :=
  .reading [] (by decide)

/--
What has become of a message: it is still awaited, and the notifier has seen
nothing of it, or it was reported once, at some point among the other events.
-/
inductive Forwarding (server : Server n) (parts : UrlParts) (hash : BlockHash)
    (notifier : Notifier n) (events : List (HttpServer.Event n)) (text : Memory)
    (result : Serving n) : Prop where
  | awaited (room : text.length < maxRequest - 1) (client_eq : result.client = .reading text room)
      (early : ¬ message parts hash <+: text)
      (notifier_eq : result.notifier =
        run (BlockNotify.step server.config) notifier (others events))
  | reported (before after : List (HttpServer.Event n)) (request : Request) (bytes : Memory)
      (split : events = before ++ .readable request (.data bytes) :: after)
      (client_eq : result.client = .destroyed (some accepted))
      (notifier_eq : result.notifier = run (BlockNotify.step server.config) notifier
        (others before ++ .report (some (nodeLabel server request.peerAddr)) hash :: others after))

section Serving

variable {url : Memory} {parts : UrlParts} {hash : BlockHash}

/-- The hash that is read from the message is the one it was built for. -/
theorem Begins.httpHandleRequest_eq {text : Memory} (begins : Begins parts hash text)
    (found : (strstr text emptyLine).isSome = true) (server : Server n) (request : Request)
    (notifier : Notifier n) :
    httpHandleRequest server request notifier text =
      (accepted, BlockNotify.step server.config notifier
        (.report (some (nodeLabel server request.peerAddr)) hash)) := by
  have asks := begins.asksNotify found
  rcases HttpServer.handleNotify_of_digits server request notifier asks.1 asks.2.1 with
    ⟨read, encoded, handled⟩
  rw [map_toLower_hexEncode] at encoded
  obtain rfl : read = hash := by
    have decoded := congrArg decodePairs encoded
    rw [decodePairs_hexEncode, decodePairs_hexEncode] at decoded
    exact Subtype.ext (Option.some.inj decoded)
  rw [HttpServer.httpHandleRequest_of_asksNotify server request notifier asks, handled]
  rfl

/-- A read either completes the request or leaves everything to the next one. -/
theorem Target.httpClientCb_eq (target : Target url parts) (server : Server n)
    (request : Request) (notifier : Notifier n) {buf bytes : Memory}
    (room : buf.length < maxRequest - 1) (nonempty : bytes ≠ [])
    (begins : Begins parts hash (buf ++ bytes)) :
    (∃ more, httpClientCb server request notifier buf room (.data bytes) =
        (.reading (buf ++ bytes) more, notifier) ∧ ¬ message parts hash <+: buf ++ bytes) ∨
      httpClientCb server request notifier buf room (.data bytes) =
        (.destroyed (some accepted), BlockNotify.step server.config notifier
          (.report (some (nodeLabel server request.peerAddr)) hash)) := by
  have part : Begins parts hash (buf ++ bytes.take (maxRequest - buf.length - 1)) :=
    begins.of_isPrefix ((List.prefix_append_right_inj buf).mpr (List.take_prefix _ _))
  unfold httpClientCb
  dsimp only
  rw [if_neg nonempty]
  by_cases found : (strstr (buf ++ bytes.take (maxRequest - buf.length - 1))
      (ascii "\r\n\r\n")).isSome = true
  · right
    rw [if_pos found, part.httpHandleRequest_eq found]
  · left
    have cut : ¬ maxRequest - 1 ≤ (buf ++ bytes.take (maxRequest - buf.length - 1)).length :=
      fun full => found (target.found_of_whole (target.whole_of_full part full))
    have all : bytes.take (maxRequest - buf.length - 1) = bytes := by
      rw [List.length_append, List.length_take] at cut
      exact List.take_of_length_le (by omega)
    rw [if_neg found, dif_neg cut]
    rw [all] at cut found
    exact ⟨Nat.not_le.mp cut, by simp only [all], fun whole =>
      found (target.found_of_whole whole)⟩

/-- A client that has got its response is left alone. -/
theorem run_destroyed (server : Server n) (response : Option HttpServer.Response)
    (notifier : Notifier n) (events : List (HttpServer.Event n)) :
    run (HttpServer.step server) ⟨.destroyed response, notifier⟩ events =
      ⟨.destroyed response, run (BlockNotify.step server.config) notifier (others events)⟩ := by
  induction events generalizing notifier with
  | nil => rfl
  | cons event rest induction =>
      cases event with
      | readable request result => exact induction notifier
      | other event => exact induction (BlockNotify.step server.config notifier event)

/-- However a message is cut into reads, it is awaited until it is reported. -/
theorem Target.run_forwarding (target : Target url parts) (server : Server n)
    (notifier : Notifier n) {buf : Memory} (room : buf.length < maxRequest - 1)
    (early : ¬ message parts hash <+: buf) (events : List (HttpServer.Event n))
    (flows : ∀ event ∈ events, Flows event)
    (begins : Begins parts hash (buf ++ arrived events)) :
    Forwarding server parts hash notifier events (buf ++ arrived events)
      (run (HttpServer.step server) ⟨.reading buf room, notifier⟩ events) := by
  induction events generalizing buf notifier with
  | nil =>
      simp only [arrived, List.append_nil]
      exact .awaited room rfl early rfl
  | cons event rest induction =>
      have later : ∀ event ∈ rest, Flows event := fun event member =>
        flows event (List.mem_cons_of_mem _ member)
      have now := flows event List.mem_cons_self
      cases event with
      | other event =>
          rcases induction (BlockNotify.step server.config notifier event) room early later begins
            with ⟨more, client_eq, still, notifier_eq⟩ | ⟨before, after, request, bytes, split,
              client_eq, notifier_eq⟩
          · exact .awaited more client_eq still notifier_eq
          · exact .reported (.other event :: before) after request bytes (by rw [split]; rfl)
              client_eq notifier_eq
      | readable request result =>
          cases result with
          | failed => exact absurd now id
          | again =>
              rcases induction notifier room early later begins with
                ⟨more, client_eq, still, notifier_eq⟩ | ⟨before, after, other, bytes, split,
                  client_eq, notifier_eq⟩
              · exact .awaited more client_eq still notifier_eq
              · exact .reported (.readable request .again :: before) after other bytes
                  (by rw [split]; rfl) client_eq notifier_eq
          | data bytes =>
              have text_eq : buf ++ arrived (.readable request (.data bytes) :: rest) =
                  buf ++ bytes ++ arrived rest := by
                rw [arrived, List.append_assoc]
              rw [text_eq] at begins ⊢
              have part := begins.of_isPrefix (List.prefix_append _ _)
              rcases target.httpClientCb_eq server request notifier room now part with
                ⟨more, result, still⟩ | result
              · have step_eq : HttpServer.step server ⟨.reading buf room, notifier⟩
                    (.readable request (.data bytes)) =
                      ⟨.reading (buf ++ bytes) more, notifier⟩ := by
                  simp only [HttpServer.step, result]
                rw [run_cons, step_eq]
                rcases induction notifier more still later begins with
                  ⟨room, client_eq, still, notifier_eq⟩ | ⟨before, after, other, next, split,
                    client_eq, notifier_eq⟩
                · exact .awaited room client_eq still notifier_eq
                · exact .reported (.readable request (.data bytes) :: before) after other next
                    (by rw [split]; rfl) client_eq notifier_eq
              · have step_eq : HttpServer.step server ⟨.reading buf room, notifier⟩
                    (.readable request (.data bytes)) =
                      ⟨.destroyed (some accepted), BlockNotify.step server.config notifier
                        (.report (some (nodeLabel server request.peerAddr)) hash)⟩ := by
                  simp only [HttpServer.step, result]
                rw [run_cons, step_eq, run_destroyed]
                exact .reported [] rest request bytes rfl rfl rfl

end Serving

/-! ## The stream of a connection -/

/-- The message of one of these notifications. -/
def SentFor (parts : UrlParts) (notifications : List Relays.Notification) (text : Memory) : Prop :=
  ∃ notification ∈ notifications, text = message parts notification.hash

/-- What the relay keeps to, with the notifications that it has seen. -/
structure Relaying (parts : UrlParts) (notifications : List Relays.Notification)
    (relays : Relays.State) : Prop where
  kept : Kept (SentFor parts notifications) relays.http.courier
  consistent : relays.http.Consistent

section Streams

variable {url : Memory} {parts : UrlParts} {config : Relays.Config} {fits : parts.Fits}

theorem step_relaying (target : Target url parts) (configured : config.http = some ⟨parts, fits⟩)
    {notifications : List Relays.Notification} (relays : Relays.State)
    (notification : Relays.Notification) (relaying : Relaying parts notifications relays)
    (member : notification ∈ notifications) :
    Relaying parts notifications (Relays.step config relays notification) := by
  have sent : Relays.relayHttpNotify config relays.http notification =
      Relays.httpSend relays.http (message parts notification.hash) notification := by
    simp only [Relays.relayHttpNotify, configured, (target.buildRequest_eq notification.hash).1]
  rcases Relays.httpSend_move notification relaying.consistent (message parts notification.hash)
    with ⟨consistent, move⟩
  rw [← sent] at consistent move
  exact ⟨move.kept relaying.kept ⟨notification, member, rfl⟩, consistent⟩

theorem run_relaying (target : Target url parts) (configured : config.http = some ⟨parts, fits⟩)
    (ckConnects : Bool) (notifications : List Relays.Notification) :
    Relaying parts notifications
      (run (Relays.step config) (Relays.createRelays config ckConnects) notifications) := by
  have start : Relaying parts notifications (Relays.createRelays config ckConnects) :=
    ⟨Kept.fresh, rfl⟩
  have along : Along (Relays.step config) (fun _ notification => notification ∈ notifications)
      (Relays.createRelays config ckConnects) notifications := by
    refine along_iff.mpr ?_
    rintro before notification after split
    rw [split]
    simp
  exact throughout_end (throughout_of_along (step_relaying target configured) start along)

/-- A stream is empty, or begins with the message of a notification. -/
theorem Relaying.begins {notifications : List Relays.Notification} {relays : Relays.State}
    (relaying : Relaying parts notifications relays) (conn : Nat) :
    stream conn relays.http.courier.log = [] ∨ ∃ notification ∈ notifications,
      Begins parts notification.hash (stream conn relays.http.courier.log) := by
  rcases relaying.kept.wholeStreams.whole conn with ⟨complete, tail, streamed, all, ending⟩
  rw [streamed]
  cases complete with
  | nil =>
      rcases ending with none | ⟨-, _, ⟨notification, member, rfl⟩, part, -⟩
      · exact Or.inl (by rw [none]; rfl)
      · exact Or.inr ⟨notification, member, Or.inl part⟩
  | cons first rest =>
      rcases all first List.mem_cons_self with ⟨notification, member, rfl⟩
      refine Or.inr ⟨notification, member, Or.inr ?_⟩
      rw [List.flatten_cons, List.append_assoc]
      exact List.prefix_append _ _

/--
Whatever the first instance relays, and however the bytes of one of its
connections reach the second, the notifier of the second gets the hash of the
first message on that connection, once the whole message has arrived, and gets
it once.  It gets nothing else from that connection.
-/
theorem firstMessage_forwarded (target : Target url parts)
    (configured : config.http = some ⟨parts, fits⟩) (ckConnects : Bool)
    (notifications : List Relays.Notification) (conn : Nat) (server : Server n)
    (notifier : Notifier n) (events : List (HttpServer.Event n))
    (flows : ∀ event ∈ events, Flows event) (some_ : arrived events ≠ [])
    (delivered : arrived events <+: stream conn (run (Relays.step config)
      (Relays.createRelays config ckConnects) notifications).http.courier.log) :
    ∃ notification ∈ notifications,
      Begins parts notification.hash (stream conn (run (Relays.step config)
        (Relays.createRelays config ckConnects) notifications).http.courier.log) ∧
      Forwarding server parts notification.hash notifier events (arrived events)
        (run (HttpServer.step server) ⟨freshClient, notifier⟩ events) := by
  have relaying := run_relaying target configured ckConnects notifications
  rcases relaying.begins conn with empty | ⟨notification, member, begins⟩
  · rw [empty] at delivered
    exact absurd (List.prefix_nil.mp delivered) some_
  · refine ⟨notification, member, begins, ?_⟩
    have early : ¬ message parts notification.hash <+: [] := by
      rw [List.prefix_nil, message_eq]
      simp [messageHead, ascii]
    exact target.run_forwarding server notifier (by decide) early events flows
      (begins.of_isPrefix delivered)

end Streams

/-- The address of the next instance. -/
def nextInstance : UrlParts :=
  ⟨ascii "10.0.0.7", 9333, ascii "/NOTIFY/%s"⟩

theorem nextInstance_target :
    Target (ascii "http://10.0.0.7:9333/NOTIFY/%s") nextInstance :=
  ⟨by decide +kernel, rfl⟩

def chainedConfig : Relays.Config :=
  ⟨false, some ⟨nextInstance, fits_of_parseHttpUrl nextInstance_target.parsed⟩⟩

/-- Two messages on one connection, which arrive in two reads. -/
def inTwoReads : List (HttpServer.Event 1) :=
  let sent := message nextInstance (BlockNotify.exampleHash 1) ++
    message nextInstance (BlockNotify.exampleHash 2)
  [.readable ⟨ascii "10.0.0.1", .unset⟩ (.data (sent.take 30)),
    .readable ⟨ascii "10.0.0.1", .unset⟩ (.data (sent.drop 30))]

theorem firstMessage_forwarded_inTwoReads :
    ∃ notification ∈ [Relays.answeredAndClosed 1, Relays.answeredAndClosed 2],
      Begins nextInstance notification.hash (stream 0 (run (Relays.step chainedConfig)
        (Relays.createRelays chainedConfig false)
        [Relays.answeredAndClosed 1, Relays.answeredAndClosed 2]).http.courier.log) ∧
      Forwarding ⟨BlockNotify.exampleConfig fun _ => "node", fun _ => ascii "10.0.0.1"⟩
        nextInstance notification.hash (BlockNotify.freshNotifier 0) inTwoReads
        (arrived inTwoReads)
        (run (HttpServer.step
            ⟨BlockNotify.exampleConfig fun _ => "node", fun _ => ascii "10.0.0.1"⟩)
          ⟨freshClient, BlockNotify.freshNotifier 0⟩ inTwoReads) := by
  have flows : ∀ event ∈ inTwoReads, Flows event := by
    simp only [inTwoReads, List.forall_mem_cons, Flows]
    exact ⟨by decide +kernel, by decide +kernel, by simp⟩
  exact firstMessage_forwarded nextInstance_target rfl false
    [Relays.answeredAndClosed 1, Relays.answeredAndClosed 2] 0 _ (BlockNotify.freshNotifier 0)
    inTwoReads flows (by decide +kernel) (by decide +kernel)

end RpcRace.NotifyHops
