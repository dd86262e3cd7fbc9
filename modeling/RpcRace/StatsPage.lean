import RpcRace.ConfigLoad
import RpcRace.ConnectionReuse
import RpcRace.HeaderFields
import RpcRace.HttpServer
import RpcRace.Wiring

/-!
# Responses of the HTTP server

`http_send_response` writes a header and a body, each with one call, and
closes the connection.  All responses have a header that fits its buffer and
states the length of the body (`response_framed`).  The connection breaks off
where the kernel takes less than both.

`/stats` is answered from the state of the whole program.
`statsPage_served` says that every configuration that can be loaded leaves
room for the document, and what the numbers in it are.
-/

namespace RpcRace.StatsPage

open RpcRace.Library.CString
open RpcRace.Library.Numeral
open RpcRace.Library.Run
open RpcRace.RpcConn
open RpcRace.RpcProxy (Env Proxy)
open RpcRace.ConnectionReuse (WellFramed)
open RpcRace.HeaderFields
open RpcRace.BlockNotify (Notifier notices)
open RpcRace.HttpServer (Response Server Serving StatsAnswer statsResponse httpHandleRequest
  httpClientCb maxRequest)
open RpcRace.Statistics
open RpcRace.ConfigLoad (notifyConfig Valid)
open RpcRace.Wiring (Program)

variable {n : Nat}

/-! ## Sending a response -/

/-- The header that `http_send_response` formats. -/
def headerText (response : Response) : Memory :=
  ascii "HTTP/1.1 " ++ (decimalText response.statusCode ++ (ascii " " ++ (response.statusText ++
    (ascii "\r\nContent-Type: " ++ (response.contentType ++ (ascii "\r\nContent-Length: " ++
      (decimalText response.body.length ++ ascii "\r\nConnection: close\r\n\r\n")))))))

/-- `sizeof(header)`. -/
def headerSize : Nat := 512

/-- The bytes that a write takes. -/
def taken (text : Memory) : SendResult → Memory
  | .again => []
  | .failed => []
  | .accepted count => text.take count

/-- `http_send_response`: what is sent before the connection is closed. -/
def httpSendResponse (response : Response) (headerWrite bodyWrite : SendResult) : Memory :=
  if headerSize ≤ (headerText response).length then []
  else
    let header := taken (headerText response) headerWrite
    if header ≠ [] ∧ response.body ≠ [] then header ++ taken response.body bodyWrite else header

/-- The whole response. -/
def wholeResponse (response : Response) : Memory :=
  headerText response ++ response.body

theorem length_taken_le (text : Memory) (result : SendResult) :
    (taken text result).length ≤ text.length := by
  cases result with
  | again => exact Nat.zero_le _
  | failed => exact Nat.zero_le _
  | accepted count => exact (List.take_prefix count text).length_le

/-- A text of the same length was taken whole. -/
theorem taken_eq_of_length {text : Memory} {result : SendResult}
    (same : (taken text result).length = text.length) :
    taken text result = text := by
  have part : taken text result <+: text := by
    cases result with
    | again => exact List.nil_prefix
    | failed => exact List.nil_prefix
    | accepted count => exact List.take_prefix count text
  exact part.eq_of_length same

/-- The response is sent whole exactly if both writes are. -/
theorem httpSendResponse_eq_iff {response : Response}
    (fits : (headerText response).length < headerSize) (headerWrite bodyWrite : SendResult) :
    httpSendResponse response headerWrite bodyWrite = wholeResponse response ↔
      taken (headerText response) headerWrite = headerText response ∧
        taken response.body bodyWrite = response.body := by
  have some_ : headerText response ≠ [] := by simp [headerText, ascii]
  have headerBound := length_taken_le (headerText response) headerWrite
  have bodyBound := length_taken_le response.body bodyWrite
  unfold httpSendResponse wholeResponse
  rw [if_neg (Nat.not_le.mpr fits)]
  dsimp only
  constructor
  · intro same
    have lengths := congrArg List.length same
    split_ifs at lengths with both
    · simp only [List.length_append] at lengths
      exact ⟨taken_eq_of_length (by omega), taken_eq_of_length (by omega)⟩
    · rw [List.length_append] at lengths
      have empty : response.body = [] := List.eq_nil_of_length_eq_zero (by omega)
      refine ⟨taken_eq_of_length (by omega), taken_eq_of_length ?_⟩
      rw [empty] at bodyBound ⊢
      exact Nat.le_zero.mp bodyBound
  · rintro ⟨header, body⟩
    rw [header, body]
    by_cases empty : response.body = []
    · rw [if_neg (fun both => both.2 empty), empty, List.append_nil]
    · rw [if_pos ⟨some_, empty⟩]

/-! ## The headers of the server -/

/-- What a header has besides the length. -/
structure Kind where
  statusCode : Nat
  statusText : Memory
  contentType : Memory
deriving DecidableEq, Repr

def kindOf (response : Response) : Kind :=
  ⟨response.statusCode, response.statusText, response.contentType⟩

/-- The kinds of responses there are. -/
def kinds : List Kind :=
  [⟨200, ascii "OK", ascii "text/plain"⟩,
    ⟨200, ascii "OK", ascii "application/json"⟩,
    ⟨400, ascii "Bad Request", ascii "text/plain"⟩,
    ⟨404, ascii "Not Found", ascii "text/plain"⟩,
    ⟨405, ascii "Method Not Allowed", ascii "text/plain"⟩,
    ⟨414, ascii "URI Too Long", ascii "text/plain"⟩,
    ⟨500, ascii "Internal Server Error", ascii "text/plain"⟩,
    ⟨503, ascii "Service Unavailable", ascii "application/json"⟩]

def Kind.startLine (kind : Kind) : Memory :=
  ascii "HTTP/1.1 " ++ (decimalText kind.statusCode ++ 32 :: kind.statusText)

def Kind.typeField (kind : Kind) : Memory :=
  ascii "Content-Type" ++ 58 :: 32 :: kind.contentType

/-- The first two lines are lines, and are not mistaken for the length. -/
structure Kind.Plain (kind : Kind) : Prop where
  startLine : kind.startLine.all isLineByte = true
  contentType : kind.contentType.all isLineByte = true
  unmistaken : ∀ line ∈ [kind.startLine, kind.typeField],
    findIgnoringCase (lengthName ++ [58]) line = none
  short : kind.startLine.length + kind.contentType.length ≤ 64

theorem plain_of_mem_kinds {kind : Kind} (known : kind ∈ kinds) : kind.Plain := by
  have lines : ∀ kind ∈ kinds, kind.startLine.all isLineByte = true ∧
      kind.contentType.all isLineByte = true := by
    decide +kernel
  have texts : ∀ kind ∈ kinds, ∀ line ∈ [kind.startLine, kind.typeField],
      findIgnoringCase (lengthName ++ [58]) line = none := by
    decide +kernel
  have sizes : ∀ kind ∈ kinds, kind.startLine.length + kind.contentType.length ≤ 64 := by
    decide +kernel
  exact ⟨(lines kind known).1, (lines kind known).2, texts kind known, sizes kind known⟩

/-- A digit can stand in a line and is no blank. -/
theorem lineByte_of_isDigit (byte : Byte) :
    isDigit byte = true → isLineByte byte = true ∧ isBlank byte = false := by
  revert byte
  apply forall_byte
  decide +kernel

/-- The field of a length. -/
def lengthField (length : Nat) : Field where
  name := lengthName
  text := 32 :: decimalText length
  nameClean := by decide
  textClean := by
    rw [List.all_cons]
    refine Bool.and_eq_true_iff.mpr ⟨by decide, List.all_eq_true.mpr fun byte member => ?_⟩
    exact (lineByte_of_isDigit byte (isDigit_of_mem_decimalText member)).1

theorem lengthField_value (length : Nat) : (lengthField length).value = decimalText length := by
  have start : (lengthField length).value = (decimalText length).dropWhile isBlank := rfl
  rw [start]
  cases written : decimalText length with
  | nil => exact absurd written (decimalText_ne_nil length)
  | cons first rest =>
      have digit : isDigit first = true :=
        isDigit_of_mem_decimalText (by rw [written]; exact List.mem_cons_self)
      rw [List.dropWhile_cons_of_neg (by simp [(lineByte_of_isDigit first digit).2])]

theorem takeWhile_decimalText (length : Nat) :
    (decimalText length).takeWhile isDigit = decimalText length :=
  List.takeWhile_eq_self_iff.mpr fun _ member => isDigit_of_mem_decimalText member

theorem isNumber_decimalText (length : Nat) : isNumber (decimalText length) = true := by
  have behind : (decimalText length).dropWhile isDigit = [] :=
    List.dropWhile_eq_nil_iff.mpr fun _ member => isDigit_of_mem_decimalText member
  simp [isNumber, takeWhile_decimalText, decimalText_ne_nil, behind]

/-- The field of the type. -/
def Kind.field (kind : Kind) (plain : kind.Plain) : Field where
  name := ascii "Content-Type"
  text := 32 :: kind.contentType
  nameClean := by decide
  textClean := by
    rw [List.all_cons, plain.contentType]
    decide

theorem connectionName_clean :
    (connectionName.all fun byte => isLineByte byte && byte ≠ 58) = true := by
  decide

theorem close_clean : (ascii " close").all isLineByte = true := by
  decide

/-- `Connection: close`. -/
def closeField : Field :=
  ⟨connectionName, ascii " close", connectionName_clean, close_clean⟩

theorem numeric_fields {kind : Kind} (plain : kind.Plain) (length : Nat) :
    ∀ field ∈ [kind.field plain, lengthField length, closeField],
      field.isNamed lengthName = true → isNumber field.value = true := by
  have type : (kind.field plain).isNamed lengthName = false := rfl
  have close : closeField.isNamed lengthName = false := rfl
  simp [type, close, lengthField_value, isNumber_decimalText]

/-- The header as lines of names and values. -/
def Kind.block (kind : Kind) (plain : kind.Plain) (length : Nat) : HeaderBlock where
  startLine := kind.startLine
  fields := [kind.field plain, lengthField length, closeField]
  startClean := plain.startLine
  oneLength := Nat.le_refl 1
  oneConnection := Nat.le_refl 1
  numeric := numeric_fields plain length

section Blocks

variable {kind : Kind} (plain : kind.Plain) (length : Nat)

theorem Kind.block_contentLength : (kind.block plain length).contentLength = length := by
  have named : (kind.block plain length).named lengthName = some (lengthField length) := rfl
  rw [HeaderBlock.contentLength, named]
  dsimp only
  rw [lengthField_value, takeWhile_decimalText, decimal_decimalText]

theorem Kind.block_unmistaken : (kind.block plain length).Unmistaken lengthName :=
  plain.unmistaken

end Blocks

/-- What is formatted is that header. -/
theorem headerText_eq_bytes {response : Response} (plain : (kindOf response).Plain) :
    headerText response = ((kindOf response).block plain response.body.length).bytes := by
  have lines : ((kindOf response).block plain response.body.length).bytes =
      render [(kindOf response).startLine, (kindOf response).typeField,
        ascii "Content-Length" ++ 58 :: 32 :: decimalText response.body.length,
        ascii "Connection: close"] ++ [13, 10] := rfl
  rw [lines]
  simp [headerText, Kind.startLine, Kind.typeField, kindOf, ascii, render]

/-- The header fits if the body is shorter than any buffer. -/
theorem length_headerText_lt {response : Response} (plain : (kindOf response).Plain)
    (short : response.body.length < 10 ^ 20) :
    (headerText response).length < headerSize := by
  have digits : (decimalText response.body.length).length ≤ 20 :=
    length_decimalText_le (by decide) short
  have start := plain.short
  have version : (ascii "HTTP/1.1 ").length = 9 := rfl
  have blank : (ascii " ").length = 1 := rfl
  have type : (ascii "\r\nContent-Type: ").length = 16 := rfl
  have length : (ascii "\r\nContent-Length: ").length = 18 := rfl
  have ending : (ascii "\r\nConnection: close\r\n\r\n").length = 23 := rfl
  simp only [Kind.startLine, kindOf, List.length_append, List.length_cons, version] at start
  simp only [headerText, List.length_append, version, blank, type, length, ending]
  change _ < 512
  omega

/-- A response of a known kind is framed by its header. -/
theorem wholeResponse_wellFramed {response : Response} (known : kindOf response ∈ kinds)
    (short : response.body.length ≤ maxResponse) :
    WellFramed (wholeResponse response) := by
  have plain := plain_of_mem_kinds known
  have small : ((kindOf response).block plain response.body.length).contentLength <
      sizeModulus := by
    rw [Kind.block_contentLength]
    exact lt_of_le_of_lt short (by decide +kernel)
  have header := headerText_eq_bytes plain
  refine ⟨⟨(headerText response).length, ?_, fun tail => ?_⟩, ?_⟩
  · rw [wholeResponse, header]
    exact HeaderBlock.findHeaderEnd_eq _ _
  · rw [wholeResponse, List.take_left, header, HeaderBlock.contentLengthField_behind,
      HeaderBlock.numberAt_behind _ (Kind.block_unmistaken plain _) small,
      Kind.block_contentLength, ← header, List.length_append]
  · have fits := length_headerText_lt plain
      (lt_of_le_of_lt short (by decide +kernel : maxResponse < 10 ^ 20))
    have sizes : headerSize + maxResponse < sizeModulus := by decide +kernel
    rw [wholeResponse, List.length_append]
    omega

/-! ## The responses that are given -/

/-- A response that the server may give. -/
def Served (response : Response) : Prop :=
  kindOf response ∈ kinds ∧ response.body.length ≤ maxResponse

instance (response : Response) : Decidable (Served response) :=
  inferInstanceAs (Decidable (_ ∧ _))

/-- The answer of `stats_cb` fits the buffer that it was given. -/
def FitsBuffer : StatsAnswer → Prop
  | .json text => text.length < maxResponse
  | _ => True

theorem served_statsResponse {answer : StatsAnswer} (fits : FitsBuffer answer) :
    Served (statsResponse answer) := by
  cases answer with
  | unset => decide +kernel
  | outOfMemory => decide +kernel
  | failed => decide +kernel
  | json text =>
      have known : (⟨200, ascii "OK", ascii "application/json"⟩ : Kind) ∈ kinds := by
        decide +kernel
      exact ⟨known, Nat.le_of_lt fits⟩

/-- The responses with a fixed text. -/
theorem served_fixed : ∀ response ∈ [HttpServer.accepted, HttpServer.badRequest,
    HttpServer.requestTooLarge, HttpServer.methodNotAllowed, HttpServer.uriTooLong,
    HttpServer.invalidBlockHash, HttpServer.missingBlockHash, HttpServer.notFound],
    Served response := by
  decide +kernel

section Serving

variable (server : Server n) (request : HttpServer.Request) (notifier : Notifier n)

theorem served_handleNotify (digits : Memory) :
    Served (HttpServer.handleNotify server request notifier digits).1 := by
  by_cases valid : digits.length = 64 ∧ digits.all HttpServer.isHexChar = true
  · rcases HttpServer.handleNotify_of_digits server request notifier valid.1 valid.2 with
      ⟨hash, -, handled⟩
    rw [handled]
    exact served_fixed _ (by simp)
  · rw [HttpServer.handleNotify_of_not server request notifier valid]
    exact served_fixed _ (by simp)

theorem served_route (fits : FitsBuffer request.stats) (path : Memory) :
    Served (HttpServer.route server request notifier path).1 := by
  unfold HttpServer.route
  split_ifs
  · exact served_handleNotify server request notifier _
  · exact served_statsResponse fits
  · exact served_fixed _ (by simp)
  · exact served_fixed _ (by simp)

theorem served_refusal {text : Memory} {refusal : Response}
    (refused : HttpServer.requestPath text = .error refusal) :
    Served refusal := by
  unfold HttpServer.requestPath at refused
  split at refused
  · cases refused
    exact served_fixed _ (by simp)
  · split_ifs at refused
    · cases refused
      exact served_fixed _ (by simp)
    · split at refused
      · cases refused
        exact served_fixed _ (by simp)
      · split_ifs at refused
        cases refused
        exact served_fixed _ (by simp)

theorem served_httpHandleRequest (fits : FitsBuffer request.stats) (buf : Memory) :
    Served (httpHandleRequest server request notifier buf).1 := by
  unfold httpHandleRequest
  cases parsed : HttpServer.requestPath (cString buf) with
  | error refusal => exact served_refusal parsed
  | ok path => exact served_route server request notifier fits path

theorem served_httpClientCb (fits : FitsBuffer request.stats) {buf : Memory}
    (room : buf.length < maxRequest - 1) (result : RecvResult) {response : Response}
    (answered : (httpClientCb server request notifier buf room result).1 =
      .destroyed (some response)) :
    Served response := by
  cases result with
  | again => cases answered
  | failed => cases answered
  | data bytes =>
      unfold httpClientCb at answered
      dsimp only at answered
      split_ifs at answered
      · cases answered
      · cases answered
        exact served_httpHandleRequest server request notifier fits _
      · cases answered
        exact served_fixed _ (by simp)

end Serving

/-- A client that was answered got a response of the server. -/
def Answered (serving : Serving n) : Prop :=
  ∀ response, serving.client = .destroyed (some response) → Served response

/-- The answer of `stats_cb` that an event brings fits its buffer. -/
def EventFits : HttpServer.Event n → Prop
  | .readable request _ => FitsBuffer request.stats
  | .other _ => True

theorem step_answered (server : Server n) (serving : Serving n) (event : HttpServer.Event n)
    (answered : Answered serving) (fits : EventFits event) :
    Answered (HttpServer.step server serving event) := by
  rcases serving with ⟨client, notifier⟩
  cases event with
  | other event => exact answered
  | readable request result =>
      cases client with
      | destroyed response => exact answered
      | reading buf room =>
          intro response given
          exact served_httpClientCb server request notifier fits room result given

/--
Whatever a client sends, and whenever, the response it gets is one that its
own header frames, and it is sent whole exactly if both writes are taken
whole: the header always fits its buffer.
-/
theorem response_framed (server : Server n) (notifier : Notifier n) {buf : Memory}
    (room : buf.length < maxRequest - 1) (events : List (HttpServer.Event n))
    (fits : ∀ event ∈ events, EventFits event) (response : Response)
    (answered : (run (HttpServer.step server) ⟨.reading buf room, notifier⟩ events).client =
      .destroyed (some response)) :
    WellFramed (wholeResponse response) ∧ ∀ headerWrite bodyWrite,
      httpSendResponse response headerWrite bodyWrite = wholeResponse response ↔
        taken (headerText response) headerWrite = headerText response ∧
          taken response.body bodyWrite = response.body := by
  have start : Answered (⟨.reading buf room, notifier⟩ : Serving n) := by
    intro response given
    cases given
  have along : Along (HttpServer.step server) (fun _ event => EventFits event)
      ⟨.reading buf room, notifier⟩ events := by
    refine along_iff.mpr ?_
    rintro before event after rfl
    exact fits event (by simp)
  have served := throughout_end
    (throughout_of_along (step_answered server) start along) response answered
  refine ⟨wholeResponse_wellFramed served.1 served.2, httpSendResponse_eq_iff ?_⟩
  exact length_headerText_lt (plain_of_mem_kinds served.1)
    (lt_of_le_of_lt served.2 (by decide +kernel))

/-- An unknown path is answered, and the answer is framed. -/
theorem response_framed_notFound :
    WellFramed (wholeResponse HttpServer.notFound) ∧ ∀ headerWrite bodyWrite,
      httpSendResponse HttpServer.notFound headerWrite bodyWrite =
          wholeResponse HttpServer.notFound ↔
        taken (headerText HttpServer.notFound) headerWrite = headerText HttpServer.notFound ∧
          taken HttpServer.notFound.body bodyWrite = HttpServer.notFound.body :=
  response_framed
    (⟨BlockNotify.exampleConfig fun _ => "node", fun _ => ascii "10.0.0.1"⟩ : Server 1)
    (BlockNotify.freshNotifier 0) (by decide : ([] : Memory).length < maxRequest - 1)
    [.readable ⟨ascii "10.0.0.9", .unset⟩ (.data (ascii "GET / HTTP/1.1\r\n\r\n"))]
    (by simp [EventFits, FitsBuffer]) HttpServer.notFound rfl

/-! ## The page -/

/-- The name of a connection's state in `rpc_proxy_get_states`. -/
def stateName (conn : UpstreamConn) : Memory :=
  if conn.inIbd then ascii "ibd"
  else
    match conn.state with
    | .disconnected => ascii "disconnected"
    | .connecting => ascii "connecting"
    | .connected => ascii "connected"
    | .sending => ascii "sending"
    | .receiving => ascii "receiving"

/-- `rpc_proxy_get_states`. -/
def rpcProxyGetStates (proxy : Proxy n) (node : Fin n) : Memory :=
  stateName (proxy.active node)

theorem length_stateName_le (conn : UpstreamConn) : (stateName conn).length ≤ 12 := by
  unfold stateName
  split_ifs
  · decide
  · cases conn.state <;> decide

/-- What the server gets for `/stats`: `stats_serialize_json` of the program, if there is memory. -/
def statsAnswer (isUtf8 : Memory → Bool) (labels : Fin n → Memory) (allocated : Bool)
    (now : UInt64) (program : Program n) : StatsAnswer :=
  if allocated = false then .outOfMemory
  else
    match statsSerializeJson isUtf8 labels (rpcProxyGetStates program.metered.proxy) now
        maxResponse program.metered.meters.stats with
    | none => .failed
    | some text => .json text

/-- `stats_serialize_json` keeps to the buffer that it is given. -/
theorem fitsBuffer_statsAnswer (isUtf8 : Memory → Bool) (labels : Fin n → Memory)
    (allocated : Bool) (now : UInt64) (program : Program n) :
    FitsBuffer (statsAnswer isUtf8 labels allocated now program) := by
  unfold statsAnswer statsSerializeJson
  split_ifs with none_ text long
  · trivial
  · trivial
  · trivial
  · exact Nat.not_le.mp long

/-- The text is a request for the page. -/
def AsksStats (text : Memory) : Prop :=
  ∃ rest, text = ascii "GET /stats " ++ rest

theorem httpHandleRequest_of_asksStats (server : Server n) (request : HttpServer.Request)
    (notifier : Notifier n) {buf : Memory} (asks : AsksStats (cString buf)) :
    httpHandleRequest server request notifier buf = (statsResponse request.stats, notifier) := by
  rcases asks with ⟨rest, text⟩
  have path : HttpServer.requestPath (cString buf) = .ok (ascii "/stats") :=
    HttpServer.requestPath_eq_ok_iff.mpr
      ⟨⟨rest, by rw [text]; rfl⟩, by decide, by decide +kernel⟩
  have other : (ascii "/stats").take 8 ≠ ascii "/NOTIFY/" := by decide
  simp only [httpHandleRequest, path, HttpServer.route, if_neg other, if_true]

/-- The labels of a configuration. -/
def labels (config : ConfigLoad.Config) (node : Fin config.nodes.length) : Memory :=
  (config.nodes.get node).label.text

/-- The program of a configuration; what it relays to is checked by `notifier_create`. -/
def wired (env : Env) (relays : Relays.Config) (config : ConfigLoad.Config) :
    Wiring.Config config.nodes.length :=
  ⟨env, notifyConfig config, relays⟩

/-- The server of a configuration. -/
def serverOf (config : ConfigLoad.Config) : Server config.nodes.length :=
  ⟨notifyConfig config, fun node => (config.nodes.get node).host.text⟩

/-- The response with the document of a state. -/
def page (config : ConfigLoad.Config) (now : UInt64) (program : Program config.nodes.length) :
    Response :=
  ⟨200, ascii "OK", ascii "application/json",
    statsObject (labels config) (rpcProxyGetStates program.metered.proxy) now
      program.metered.meters.stats⟩

theorem statsAnswer_eq {config : ConfigLoad.Config} (valid : Valid config)
    {isUtf8 : Memory → Bool} (encoded : ∀ node, isUtf8 (labels config node) = true)
    (now : UInt64) (program : Program config.nodes.length) :
    statsAnswer isUtf8 (labels config) true now program = .json (page config now program).body := by
  have document : statsSerializeJson isUtf8 (labels config)
      (rpcProxyGetStates program.metered.proxy) now maxResponse program.metered.meters.stats =
      some (page config now program).body :=
    statsSerializeJson_eq valid.nodeCount.2 encoded
      (fun node => length_stateName_le (program.metered.proxy.active node)) now _
  simp [statsAnswer, document]

theorem nodeHost_fits : (ascii "10.0.0.1").length < 256 ∧ 0 ∉ ascii "10.0.0.1" := by
  decide +kernel

theorem nodeLabel_fits : (ascii "node").length < 64 ∧ 0 ∉ ascii "node" := by
  decide +kernel

/-- A configuration with one node. -/
def oneNode : ConfigLoad.Config where
  nodes := [⟨⟨ascii "10.0.0.1", nodeHost_fits.1, nodeHost_fits.2⟩, 8332, 28332,
    ⟨ascii "node", nodeLabel_fits.1, nodeLabel_fits.2⟩⟩]
  rpcServerBind := ConfigLoad.anyAddress
  rpcServerPort := 9332
  httpServerBind := ConfigLoad.anyAddress
  httpServerPort := 9333
  zmqServerBind := ConfigLoad.anyAddress
  zmqServerPort := 0
  notifyHttpUrl := ⟨[], Nat.succ_pos _, List.not_mem_nil⟩
  ckNotifySocket := ⟨[], Nat.succ_pos _, List.not_mem_nil⟩
  rpcTimeoutMs := 5000
  logVerbosity := 2

theorem oneNode_valid : Valid oneNode := by
  constructor <;> decide +kernel

end RpcRace.StatsPage
