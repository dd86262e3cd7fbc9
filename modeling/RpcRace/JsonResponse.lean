import RpcRace.RpcConn

/-!
# JSON-RPC messages

The readers of `rpc_proxy.c` that look into JSON text: the method of a
request, and the error, error code and height of a response.  The vendored
parser `yyjson_read` is a parameter: a function from the bytes of a text to
the value it denotes, if it is well formed.
-/

namespace RpcRace.JsonResponse

open RpcRace.Library.CString
open RpcRace.RpcConn

/--
A parsed JSON value.  An integer is `uint` when it is non-negative and fits
64 bits, `sint` when it is negative and fits; any other number is `real`.
-/
inductive Json where
  | null
  | bool (value : Bool)
  | uint (value : UInt64)
  | sint (value : Int64)
  | real
  | str (text : Memory)
  | arr (items : List Json)
  | obj (fields : List (Memory × Json))

/-- The type of `yyjson_read(text, len, 0)`. -/
abbrev JsonReader := Memory → Option Json

/-- `yyjson_obj_get`: the first field of that name of an object. -/
def Json.objGet (value : Json) (key : Memory) : Option Json :=
  match value with
  | .obj fields => (fields.find? fun field => field.1 = key).map Prod.snd
  | _ => none

/-- The value if it passes `yyjson_is_obj`. -/
def Json.asObj (value : Json) : Option Json :=
  match value with
  | .obj fields => some (.obj fields)
  | _ => none

/-- `yyjson_get_sint` of a value that passes `yyjson_is_int`. -/
def Json.asInt (value : Json) : Option Int :=
  match value with
  | .uint number => some number.toInt64.toInt
  | .sint number => some number.toInt
  | _ => none

/-- The text of a value that passes `yyjson_is_str`. -/
def Json.asStr (value : Json) : Option Memory :=
  match value with
  | .str text => some text
  | _ => none

/-- The root object of a non-empty, well-formed text. -/
def readRootObject (read : JsonReader) (text : Memory) : Option Json :=
  if text = [] then none else (read text).bind Json.asObj

/-- `sizeof(proxy->method)`. -/
def methodSize : Nat := 128

/--
`extract_json_rpc_method` over the received bytes; `none` is the result `-1`.
-/
def extractJsonRpcMethod (read : JsonReader) (request : Memory) : Option Memory := do
  let headerEnd ← findHeaderEnd request
  let root ← readRootObject read (request.drop headerEnd)
  let value ← root.objGet (ascii "method")
  let method ← value.asStr
  if methodSize ≤ method.length then none else some method

/-- The HTTP status code of a response, zero if it cannot be read. -/
def httpStatus (conn : UpstreamConn) : Int :=
  if 12 ≤ conn.recvLen ∧ conn.recvBuf.take 5 = ascii "HTTP/" then
    match memchr (conn.recvBuf.take (min conn.recvLen 16)) 32 with
    | none => 0
    | some position => atoi (conn.recvBuf.drop (position + 1))
  else 0

/-- The root object of a complete response. -/
def responseRoot (read : JsonReader) (conn : UpstreamConn) : Option Json := do
  let body ← rpcConnGetResponse conn
  readRootObject read body

/-- A present field that is not `null`. -/
def isNonNull : Option Json → Bool
  | none => false
  | some .null => false
  | some _ => true

/-- `response_is_error`. -/
def responseIsError (read : JsonReader) (conn : UpstreamConn) : Bool :=
  if conn.headersComplete = false ∨ conn.recvLen = 0 then true
  else if httpStatus conn ≠ 200 then true
  else
    match responseRoot read conn with
    | none => true
    | some root => isNonNull (root.objGet (ascii "error"))

/-- `parse_rpc_error_code`: zero when there is no integer code. -/
def parseRpcErrorCode (read : JsonReader) (conn : UpstreamConn) : Int :=
  match (responseRoot read conn).bind fun root => do
      let error ← (← root.objGet (ascii "error")).asObj
      (← error.objGet (ascii "code")).asInt with
  | none => 0
  | some code => Int.bmod code (2 ^ 32)

/-- The integer `height` of a `getblocktemplate` result, if there is one. -/
def gbtHeight (read : JsonReader) (conn : UpstreamConn) : Option Int := do
  let root ← responseRoot read conn
  let result ← (← root.objGet (ascii "result")).asObj
  (← result.objGet (ascii "height")).asInt

/-- `parse_gbt_height`. -/
def parseGbtHeight (read : JsonReader) (conn : UpstreamConn) : Int :=
  (gbtHeight read conn).getD (-1)

end RpcRace.JsonResponse
