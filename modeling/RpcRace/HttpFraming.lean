import RpcRace.RpcProxy

/-!
# The two HTTP framers

Responses are framed by `parse_headers` and `rpc_conn_response_complete`,
which remember the header once it is complete; requests by
`parse_http_request`, which starts over with every chunk.  Both read the
receive buffer as a C string, so past the bytes received they see what an
earlier message left there.

`wholeMessage` says from the received bytes alone whether a message is
complete.  Both framers compute it, however the bytes came in chunks, as
long as the header is one that they read correctly (`Declares`).
-/

namespace RpcRace.HttpFraming

open RpcRace.Library.CString
open RpcRace.RpcConn
open RpcRace.RpcProxy

/-! ## The end of the header -/

theorem findHeaderEnd_bounds {memory : Memory} {headerEnd : Nat}
    (found : findHeaderEnd memory = some headerEnd) :
    4 ≤ headerEnd ∧ headerEnd ≤ memory.length := by
  induction memory generalizing headerEnd with
  | nil => simp [findHeaderEnd] at found
  | cons byte rest induction =>
      rw [findHeaderEnd] at found
      split_ifs at found with here
      · have four := congrArg List.length here
        simp only [List.length_take, List.length_cons, List.length_nil] at four
        simp only [Option.some.injEq] at found
        simp only [List.length_cons]
        omega
      · rcases Option.map_eq_some_iff.mp found with ⟨position, later, rfl⟩
        have bounds := induction later
        simp only [List.length_cons]
        omega

/-- The end of a header stays where it was found when more bytes come. -/
theorem findHeaderEnd_append {memory : Memory} {headerEnd : Nat}
    (found : findHeaderEnd memory = some headerEnd) (more : Memory) :
    findHeaderEnd (memory ++ more) = some headerEnd := by
  induction memory generalizing headerEnd with
  | nil => simp [findHeaderEnd] at found
  | cons byte rest induction =>
      have bounds := findHeaderEnd_bounds found
      have same : (byte :: rest ++ more).take 4 = (byte :: rest).take 4 := by
        apply List.take_append_of_le_length
        omega
      rw [List.cons_append] at same
      rw [findHeaderEnd] at found
      rw [List.cons_append, findHeaderEnd, same]
      split_ifs at found ⊢ with here
      · exact found
      · rcases Option.map_eq_some_iff.mp found with ⟨position, later, rfl⟩
        rw [induction later]
        rfl

/-- The end of a header is found as soon as its bytes are there. -/
theorem findHeaderEnd_of_append {memory more : Memory} {headerEnd : Nat}
    (found : findHeaderEnd (memory ++ more) = some headerEnd)
    (received : headerEnd ≤ memory.length) :
    findHeaderEnd memory = some headerEnd := by
  induction memory generalizing headerEnd with
  | nil =>
      have bounds := findHeaderEnd_bounds found
      simp only [List.length_nil] at received
      omega
  | cons byte rest induction =>
      have bounds := findHeaderEnd_bounds found
      have same : (byte :: rest ++ more).take 4 = (byte :: rest).take 4 := by
        apply List.take_append_of_le_length
        omega
      rw [List.cons_append] at same
      rw [List.cons_append, findHeaderEnd, same] at found
      rw [findHeaderEnd]
      split_ifs at found ⊢ with here
      · exact found
      · rcases Option.map_eq_some_iff.mp found with ⟨position, later, rfl⟩
        rw [induction later (Nat.le_of_succ_le_succ received)]
        rfl

/-- A header ends in a line feed. -/
theorem getLast_header {memory : Memory} {headerEnd : Nat}
    (found : findHeaderEnd memory = some headerEnd) :
    (memory.take headerEnd).getLast? = some 10 := by
  induction memory generalizing headerEnd with
  | nil => simp [findHeaderEnd] at found
  | cons byte rest induction =>
      rw [findHeaderEnd] at found
      split_ifs at found with here
      · cases found
        rw [here]
        rfl
      · rcases Option.map_eq_some_iff.mp found with ⟨position, later, rfl⟩
        have last := induction later
        rw [List.take_succ_cons, List.getLast?_cons, last]
        rfl

/-! ## The declared length -/

/-- The field name that both framers look for. -/
def contentLengthName : Memory :=
  ascii "Content-Length:"

/-- What follows the first `Content-Length:` of a header and the blanks behind it. -/
def lengthText (header : Memory) : Option Memory :=
  (findIgnoringCase contentLengthName header).map fun position =>
    (header.drop (position + contentLengthName.length)).dropWhile isBlank

/-- The length a header declares for the body, zero if it declares none. -/
def declaredLength (header : Memory) : Nat :=
  match lengthText header with
  | none => 0
  | some text => decimal (text.takeWhile isDigit)

/-- A header block that the framers read as it is meant. -/
structure Declares (header : Memory) : Prop where
  clean : 0 ∉ header
  digits : ∀ text, lengthText header = some text → ∃ first rest,
    text = first :: rest ∧ isDigit first = true
  fits : header.length + declaredLength header ≤ socketBufSize

theorem Declares.small {header : Memory} (declares : Declares header) :
    header.length + declaredLength header < sizeModulus := by
  have fits := declares.fits
  simp only [socketBufSize, sizeModulus] at fits ⊢
  omega

/-- What is read from the buffer at a field, if the header has one. -/
theorem fieldValue_append {header name : Memory} (foreign : toLower 10 ∉ name.map toLower)
    (nonempty : name ≠ []) (clean : 0 ∉ header) (ends : header.getLast? = some 10)
    (tail : Memory) :
    fieldValue (header ++ tail) name header.length =
      (findIgnoringCase name header).map fun position =>
        (header.drop (position + name.length) ++ tail).dropWhile isBlank := by
  have found := findIgnoringCase_append ends foreign nonempty (cString tail)
  rw [fieldValue, strcasestr, cString_append clean, found]
  cases inside : findIgnoringCase name header with
  | none =>
      -- a match in the body or in stale bytes is not before the end of the header
      cases findIgnoringCase name (cString tail) <;> simp
  | some position =>
      have bound := findIgnoringCase_bound inside
      have before : position < header.length := by
        have positive := List.length_pos_of_ne_nil nonempty
        omega
      simp only [Option.some_or, before, if_true, Option.map_some]
      rw [List.drop_append_of_le_length bound]

/-- The value that the framers read, whatever stands in the buffer behind the header. -/
theorem contentLengthField_append {header : Memory} (declares : Declares header)
    (ends : header.getLast? = some 10) (tail : Memory) :
    contentLengthField (header ++ tail) header.length = declaredLength header := by
  have value : fieldValue (header ++ tail) contentLengthName header.length = _ :=
    fieldValue_append (by decide) (by decide) declares.clean ends tail
  have small := declares.small
  rw [declaredLength] at small
  rw [contentLengthField, ← contentLengthName, value, declaredLength, lengthText]
  cases inside : findIgnoringCase contentLengthName header with
  | none => rfl
  | some position =>
      have text : lengthText header = some
          ((header.drop (position + contentLengthName.length)).dropWhile isBlank) := by
        rw [lengthText, inside]
        rfl
      rcases declares.digits _ text with ⟨first, rest, starts, digit⟩
      rw [text, starts] at small
      -- the digits stand in the header, so its line feed is behind them
      have ending : (first :: rest).getLast? = some 10 := by
        have part : first :: rest <:+ header := by
          rw [← starts]
          exact (List.dropWhile_suffix _).trans (List.drop_suffix _ _)
        rcases part with ⟨front, rfl⟩
        simpa [List.getLast?_append] using ends
      have same : (first :: rest ++ tail).takeWhile isDigit =
          (first :: rest).takeWhile isDigit := by
        rcases List.getLast?_eq_some_iff.mp ending with ⟨line, line_eq⟩
        rw [line_eq, List.append_assoc, List.singleton_append, takeWhile_stop (by decide),
          takeWhile_stop (by decide)]
      simp only [Option.map_some]
      rw [List.dropWhile_append, starts]
      change strtoull (first :: (rest ++ tail)) = _
      rw [strtoull_of_isDigit digit, ← List.cons_append, same]
      rw [← List.cons_append, same]
      exact Nat.lt_of_le_of_lt (Nat.le_add_left _ _) small

/-! ## Whole messages -/

/-- The received bytes hold a header and the body it declares. -/
def wholeMessage (bytes : Memory) : Bool :=
  match findHeaderEnd bytes with
  | none => false
  | some headerEnd => headerEnd + declaredLength (bytes.take headerEnd) ≤ bytes.length

/-- A stream whose header, if it has one, is read as it is meant. -/
def Framable (stream : Memory) : Prop :=
  ∀ headerEnd, findHeaderEnd stream = some headerEnd → Declares (stream.take headerEnd)

theorem take_header {bytes more : Memory} {headerEnd : Nat}
    (found : findHeaderEnd bytes = some headerEnd) :
    (bytes ++ more).take headerEnd = bytes.take headerEnd :=
  List.take_append_of_le_length (findHeaderEnd_bounds found).2

theorem Framable.left {bytes more : Memory} (framable : Framable (bytes ++ more)) :
    Framable bytes := by
  intro headerEnd found
  have declares := framable headerEnd (findHeaderEnd_append found more)
  rwa [take_header found] at declares

/-- Where the header and its body end in a stream, and that many bytes have been received. -/
def HasArrived (stream : Memory) (received : Nat) : Prop :=
  ∃ headerEnd, findHeaderEnd stream = some headerEnd ∧
    headerEnd + declaredLength (stream.take headerEnd) ≤ received

theorem wholeMessage_iff_hasArrived (bytes more : Memory) :
    wholeMessage bytes = true ↔ HasArrived (bytes ++ more) bytes.length := by
  unfold wholeMessage
  constructor
  · intro whole
    cases found : findHeaderEnd bytes with
    | none => simp [found] at whole
    | some headerEnd =>
        rw [found] at whole
        refine ⟨headerEnd, findHeaderEnd_append found more, ?_⟩
        rw [take_header found]
        exact of_decide_eq_true whole
  · rintro ⟨headerEnd, found, enough⟩
    have early := findHeaderEnd_of_append found (Nat.le_of_add_right_le enough)
    rw [take_header early] at enough
    rw [early]
    exact decide_eq_true enough

/-! ## Receive buffers -/

/-- A receive buffer starts with these bytes, and this many have been received. -/
structure Holds (memory : Memory) (received : Nat) (bytes : Memory) : Prop where
  length : received = bytes.length
  stored : memory.take received = bytes

theorem Holds.write {memory bytes : Memory} {received : Nat} (holds : Holds memory received bytes)
    (chunk : Memory) :
    Holds (writeAt memory received chunk) (received + chunk.length) (bytes ++ chunk) where
  length := by simp [holds.length]
  stored := by
    have within : received ≤ memory.length := by
      have length_eq := congrArg List.length holds.stored
      rw [List.length_take, ← holds.length] at length_eq
      omega
    rw [take_writeAt within, holds.stored]

theorem Holds.contentLengthField_eq {memory bytes : Memory} {received headerEnd : Nat}
    (holds : Holds memory received bytes) (framable : Framable bytes)
    (found : findHeaderEnd bytes = some headerEnd) :
    contentLengthField memory headerEnd = declaredLength (bytes.take headerEnd) := by
  have bounds := findHeaderEnd_bounds found
  have length_eq : (bytes.take headerEnd).length = headerEnd := by
    rw [List.length_take, min_eq_left bounds.2]
  have split : memory = bytes.take headerEnd ++ memory.drop headerEnd := by
    have within : headerEnd ≤ received := by
      rw [holds.length]
      exact bounds.2
    rw [← holds.stored, List.take_take, min_eq_left within, List.take_append_drop]
  have read := contentLengthField_append (framable headerEnd found) (getLast_header found)
    (memory.drop headerEnd)
  rwa [← split, length_eq] at read

/-- The expected length is computed without a wrap-around. -/
theorem Framable.expected_eq {bytes : Memory} {headerEnd : Nat} (framable : Framable bytes)
    (found : findHeaderEnd bytes = some headerEnd) :
    (headerEnd + declaredLength (bytes.take headerEnd)) % sizeModulus =
      headerEnd + declaredLength (bytes.take headerEnd) := by
  have small := (framable headerEnd found).small
  rw [List.length_take, min_eq_left (findHeaderEnd_bounds found).2] at small
  exact Nat.mod_eq_of_lt small

/-! ## The request framer -/

theorem parseHttpRequest_eq {bytes : Memory} {client : Client}
    (holds : Holds client.recvBuf client.recvLen bytes) (framable : Framable bytes) :
    parseHttpRequest client = wholeMessage bytes := by
  rw [parseHttpRequest, wholeMessage, holds.stored]
  cases found : findHeaderEnd bytes with
  | none => rfl
  | some headerEnd =>
      dsimp only
      rw [holds.contentLengthField_eq framable found, framable.expected_eq found, holds.length]

theorem foldl_store_holds {bytes : Memory} {client : Client}
    (holds : Holds client.recvBuf client.recvLen bytes) (chunks : List Memory) :
    Holds (chunks.foldl Client.store client).recvBuf (chunks.foldl Client.store client).recvLen
      (bytes ++ chunks.flatten) := by
  induction chunks generalizing bytes client with
  | nil => simpa using holds
  | cons chunk rest induction =>
      have stored : Holds (client.store chunk).recvBuf (client.store chunk).recvLen
          (bytes ++ chunk) :=
        holds.write chunk
      simpa using induction stored

/-! ## The response framer -/

/-- The connection has received these bytes and remembers their header. -/
structure Framed (bytes : Memory) (conn : UpstreamConn) : Prop where
  holds : Holds conn.recvBuf conn.recvLen bytes
  waiting : findHeaderEnd bytes = none → conn.headersComplete = false
  parsed : ∀ headerEnd, findHeaderEnd bytes = some headerEnd →
    conn.headersComplete = true ∧ conn.headerLen = headerEnd ∧
      conn.contentLength = declaredLength (bytes.take headerEnd)

theorem Framed.absorb {bytes chunk : Memory} {conn : UpstreamConn} (framed : Framed bytes conn)
    (framable : Framable (bytes ++ chunk)) :
    Framed (bytes ++ chunk) (conn.absorb chunk) := by
  have holds := framed.holds.write chunk
  constructor
  · simpa using holds
  · intro unseen
    have waiting : conn.headersComplete = false := by
      apply framed.waiting
      cases found : findHeaderEnd bytes with
      | none => rfl
      | some headerEnd => simp [findHeaderEnd_append found chunk] at unseen
    simp [UpstreamConn.absorb, parseHeaders, holds.stored, unseen, waiting]
  · intro headerEnd found
    cases before : findHeaderEnd bytes with
    | none =>
        have read := holds.contentLengthField_eq framable found
        have waiting := framed.waiting before
        simp [UpstreamConn.absorb, parseHeaders, holds.stored, found, waiting, read]
    | some early =>
        have same := findHeaderEnd_append before chunk
        rw [found, Option.some.injEq] at same
        subst same
        rw [take_header before]
        rcases framed.parsed headerEnd before with ⟨complete, cached⟩
        simpa [UpstreamConn.absorb, parseHeaders, complete] using cached

theorem rpcConnResponseComplete_eq {bytes : Memory} {conn : UpstreamConn}
    (framed : Framed bytes conn) (framable : Framable bytes) :
    rpcConnResponseComplete conn = wholeMessage bytes := by
  rw [rpcConnResponseComplete, wholeMessage]
  cases found : findHeaderEnd bytes with
  | none => simp [framed.waiting found]
  | some headerEnd =>
      rcases framed.parsed headerEnd found with ⟨complete, header_eq, length_eq⟩
      rw [UpstreamConn.expected, header_eq, length_eq, framable.expected_eq found, complete,
        framed.holds.length, Bool.true_and]

theorem foldl_framed {bytes : Memory} {conn : UpstreamConn} (framed : Framed bytes conn)
    (chunks : List Memory) (framable : Framable (bytes ++ chunks.flatten)) :
    Framed (bytes ++ chunks.flatten) (chunks.foldl UpstreamConn.absorb conn) := by
  induction chunks generalizing bytes conn with
  | nil => simpa using framed
  | cons chunk rest induction =>
      rw [List.flatten_cons, ← List.append_assoc] at framable ⊢
      exact induction (framed.absorb framable.left) framable

/-! ## Both framers -/

/-- A request in three chunks, the first of which ends within the header. -/
def chunkedRequest : List Memory :=
  [ascii "POST / HTTP/1.1\r\ncontent-length: 2\r\n", ascii "\r\n[", ascii "]"]

theorem framable_chunkedRequest : Framable chunkedRequest.flatten := by
  intro headerEnd found
  have position : findHeaderEnd chunkedRequest.flatten = some 38 := by decide
  rw [position] at found
  cases found
  refine ⟨by decide, ?_, by decide⟩
  have declared : lengthText (chunkedRequest.flatten.take 38) = some (ascii "2\r\n\r\n") := by
    decide
  intro text found
  rw [declared] at found
  cases found
  exact ⟨50, ascii "\r\n\r\n", rfl, rfl⟩

/-- An older message, with another length, that the buffers still hold. -/
def olderMessage : Memory :=
  ascii "HTTP/1.1 200 OK\r\nConnection: close\r\nContent-Length: 99\r\n\r\n"

/--
After each chunk of a stream, a response and a request with these bytes are
either both complete or both not, and they are complete exactly if the
header and the body it declares have arrived.  The receive buffers may hold
anything before.
-/
theorem framers_agree {stream : Memory} (framable : Framable stream) (conn : UpstreamConn)
    (taken : Nat) (client : Client) (received later : List Memory)
    (split : (received ++ later).flatten = stream) :
    rpcConnResponseComplete (received.foldl UpstreamConn.absorb (conn.beginReceive taken)) =
        parseHttpRequest (received.foldl Client.store { client with recvLen := 0 }) ∧
      (parseHttpRequest (received.foldl Client.store { client with recvLen := 0 }) = true ↔
        HasArrived stream received.flatten.length) := by
  rw [List.flatten_append] at split
  subst split
  have upstream : Framed [] (conn.beginReceive taken) :=
    ⟨⟨rfl, rfl⟩, fun _ => rfl, fun headerEnd found => by simp [findHeaderEnd] at found⟩
  have response := rpcConnResponseComplete_eq (foldl_framed upstream received framable.left)
    framable.left
  have request : parseHttpRequest (received.foldl Client.store { client with recvLen := 0 }) =
      wholeMessage ([] ++ received.flatten) :=
    parseHttpRequest_eq (foldl_store_holds ⟨rfl, rfl⟩ received) framable.left
  rw [List.nil_append] at response request
  rw [response, request]
  exact ⟨rfl, wholeMessage_iff_hasArrived received.flatten later.flatten⟩

theorem framers_agree_chunkedRequest :
    Framable chunkedRequest.flatten ∧
      rpcConnResponseComplete (chunkedRequest.foldl UpstreamConn.absorb
          ((rpcConnInit olderMessage .slotOnConnected).beginReceive 0)) =
        parseHttpRequest (chunkedRequest.foldl Client.store ⟨none, olderMessage, 0, true⟩) ∧
      (parseHttpRequest (chunkedRequest.foldl Client.store ⟨none, olderMessage, 0, true⟩) =
          true ↔
        HasArrived chunkedRequest.flatten chunkedRequest.flatten.length) := by
  refine ⟨framable_chunkedRequest, ?_⟩
  exact framers_agree framable_chunkedRequest (rpcConnInit olderMessage .slotOnConnected) 0
    ⟨none, olderMessage, 0, true⟩ chunkedRequest [] (by rw [List.append_nil])

end RpcRace.HttpFraming
