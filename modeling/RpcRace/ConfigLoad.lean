import RpcRace.BlockNotify
import RpcRace.JsonResponse

/-!
# The configuration

`config_load` of `config.c`: the file is parsed as JSON, the fields are read
one after the other, and the first one that is missing, of the wrong type, too
long or out of range ends the load.

A configuration that was loaded satisfies `Valid`, and every valid
configuration is loaded back from its JSON form
(`configLoad_sound_and_roundTrips`).  The texts of the log are left out; an
error carries what they report.
-/

namespace RpcRace.ConfigLoad

open RpcRace.Library.CString
open RpcRace.JsonResponse (Json JsonReader)

/-! ## Configurations -/

/-- The string in a character array: shorter than the array, and without a zero. -/
@[ext]
structure FieldText (size : Nat) where
  text : Memory
  fits : text.length < size
  clean : 0 ∉ text
deriving DecidableEq

/-- `node_config_t`. -/
@[ext]
structure NodeConfig where
  host : FieldText 256
  rpcPort : UInt16
  /-- Zero if there is none. -/
  zmqPort : UInt16
  label : FieldText 64
deriving DecidableEq

/-- `config_t`, with the first `node_count` nodes. -/
@[ext]
structure Config where
  nodes : List NodeConfig
  rpcServerBind : FieldText 64
  rpcServerPort : UInt16
  httpServerBind : FieldText 64
  httpServerPort : UInt16
  zmqServerBind : FieldText 64
  zmqServerPort : UInt16
  notifyHttpUrl : FieldText 512
  ckNotifySocket : FieldText 108
  rpcTimeoutMs : UInt32
  logVerbosity : Int
deriving DecidableEq

/-- `MAX_NODES`. -/
def maxNodes : Nat := 16

/-- The fields of the file. -/
inductive Field where
  | nodes
  | host
  | rpcPort
  | zmqPort
  | label
  | rpcServerBind
  | rpcServerPort
  | httpServerBind
  | httpServerPort
  | zmqServerBind
  | zmqServerPort
  | notifyHttpUrl
  | rpcTimeoutMs
  | logVerbosity
  | ckNotifySocket
deriving DecidableEq, Repr

def Field.key : Field → Memory
  | .nodes => ascii "nodes"
  | .host => ascii "host"
  | .rpcPort => ascii "rpc_port"
  | .zmqPort => ascii "zmq_port"
  | .label => ascii "label"
  | .rpcServerBind => ascii "rpc_server_bind"
  | .rpcServerPort => ascii "rpc_server_port"
  | .httpServerBind => ascii "http_server_bind"
  | .httpServerPort => ascii "http_server_port"
  | .zmqServerBind => ascii "zmq_server_bind"
  | .zmqServerPort => ascii "zmq_server_port"
  | .notifyHttpUrl => ascii "notify_http_url"
  | .rpcTimeoutMs => ascii "rpc_timeout_ms"
  | .logVerbosity => ascii "log_verbosity"
  | .ckNotifySocket => ascii "ck_notify_socket"

/-- Why a load fails. -/
inductive ConfigError where
  | noPath
  | cannotOpen
  | emptyFile
  | outOfMemory
  | shortRead
  | parseError
  | rootNotObject
  | invalidNodes
  | noNodes
  | tooManyNodes (count : Nat)
  | nodeNotObject (idx : Nat)
  | invalidString (field : Field)
  | invalidInteger (field : Field)
  | invalidType (field : Field)
  | tooLong (field : Field) (length size : Nat)
  | outOfRange (field : Field) (value : Int)
  | duplicateLabel (label : Memory)
deriving DecidableEq, Repr

/-! ## Fields -/

/-- `yyjson_obj_get` with the name of a field. -/
def get (object : Json) (field : Field) : Option Json :=
  object.objGet field.key

/-- `json_str_copy` into an array of this size. -/
def jsonStrCopy (value : Option Json) (size : Nat) (field : Field) :
    Except ConfigError (FieldText size) :=
  match value.bind Json.asStr with
  | none => .error (.invalidString field)
  | some string =>
      if fits : (cString string).length < size then
        .ok ⟨cString string, fits, zero_notMem_cString string⟩
      else .error (.tooLong field (cString string).length size)

/-- An integer field between two bounds. -/
def jsonRange (value : Option Json) (least greatest : Int) (field : Field) :
    Except ConfigError Int :=
  match value.bind Json.asInt with
  | none => .error (.invalidInteger field)
  | some number =>
      if number < least ∨ greatest < number then .error (.outOfRange field number)
      else .ok number

/-- An integer field between two bounds, as a word that has room for it. -/
def jsonWord {Word : Type} (ofNat : Nat → Word) (value : Option Json) (least greatest : Nat)
    (field : Field) : Except ConfigError Word := do
  let number ← jsonRange value least greatest field
  .ok (ofNat number.toNat)

/-- `json_uint16`. -/
def jsonUint16 (value : Option Json) (field : Field) : Except ConfigError UInt16 :=
  jsonWord UInt16.ofNat value 1 65535 field

/-- `json_uint32`. -/
def jsonUint32 (value : Option Json) (field : Field) : Except ConfigError UInt32 :=
  jsonWord UInt32.ofNat value 1 4294967295 field

/-- A string that is left at its default if the field is missing or no string. -/
def optionalStr {size : Nat} (value : Option Json) (field : Field) (default : FieldText size) :
    Except ConfigError (FieldText size) :=
  if (value.bind Json.asStr).isSome then jsonStrCopy value size field else .ok default

/-- `zmq_port` of a node: a field that is present must be a port. -/
def nodeZmqPort (value : Option Json) : Except ConfigError UInt16 :=
  if value.isSome then jsonUint16 value .zmqPort else .ok 0

/-- `zmq_server_port`: zero is allowed, and anything but an integer is taken for it. -/
def serverZmqPort (value : Option Json) : Except ConfigError UInt16 :=
  if (value.bind Json.asInt).isSome then jsonWord UInt16.ofNat value 0 65535 .zmqServerPort
  else .ok 0

def noText {size : Nat} [NeZero size] : FieldText size :=
  ⟨[], NeZero.pos size, by simp⟩

/-- `ck_notify_socket`: a field that is present must be a string. -/
def ckSocket (value : Option Json) : Except ConfigError (FieldText 108) :=
  match value with
  | none => .ok noText
  | some value =>
      match value.asStr with
      | none => .error (.invalidType .ckNotifySocket)
      | some string =>
          if (cString string).length = 0 then .ok noText
          else if fits : (cString string).length ≤ 107 then
            .ok ⟨cString string, Nat.lt_succ_of_le fits, zero_notMem_cString string⟩
          else .error (.tooLong .ckNotifySocket (cString string).length 108)

/-! ## Nodes -/

/-- The body of the loop of `parse_nodes`. -/
def parseNode (idx : Nat) (value : Json) : Except ConfigError NodeConfig :=
  match value.asObj with
  | none => .error (.nodeNotObject idx)
  | some node => do
      let host ← jsonStrCopy (get node .host) 256 .host
      let rpcPort ← jsonUint16 (get node .rpcPort) .rpcPort
      let zmqPort ← nodeZmqPort (get node .zmqPort)
      let label ← jsonStrCopy (get node .label) 64 .label
      .ok ⟨host, rpcPort, zmqPort, label⟩

/-- The loop of `parse_nodes` from an index on. -/
def parseNodesFrom (idx : Nat) : List Json → Except ConfigError (List NodeConfig)
  | [] => .ok []
  | value :: rest => do
      let node ← parseNode idx value
      let nodes ← parseNodesFrom (idx + 1) rest
      .ok (node :: nodes)

/-- `parse_nodes`. -/
def parseNodes (root : Json) : Except ConfigError (List NodeConfig) :=
  match get root .nodes with
  | some (.arr items) =>
      if items.length = 0 then .error .noNodes
      else if maxNodes < items.length then .error (.tooManyNodes items.length)
      else parseNodesFrom 0 items
  | _ => .error .invalidNodes

/-- `validate_unique_labels`. -/
def validateUniqueLabels : List NodeConfig → Except ConfigError Unit
  | [] => .ok ()
  | node :: rest =>
      if rest.any fun other => node.label.text = other.label.text then
        .error (.duplicateLabel node.label.text)
      else validateUniqueLabels rest

/-! ## `config_load` -/

/-- What there is to read. -/
inductive ConfigFile where
  /-- The path is null or empty. -/
  | noPath
  | cannotOpen
  | outOfMemory
  | shortRead
  | contents (bytes : Memory)

/-- `"0.0.0.0"`. -/
def anyAddress : FieldText 64 :=
  ⟨ascii "0.0.0.0", by decide +kernel, by decide +kernel⟩

/-- `config_load` from the root object on. -/
def loadRoot (root : Json) : Except ConfigError Config := do
  let nodes ← parseNodes root
  let rpcServerBind ← jsonStrCopy (get root .rpcServerBind) 64 .rpcServerBind
  let rpcServerPort ← jsonUint16 (get root .rpcServerPort) .rpcServerPort
  let httpServerBind ← jsonStrCopy (get root .httpServerBind) 64 .httpServerBind
  let httpServerPort ← jsonUint16 (get root .httpServerPort) .httpServerPort
  let zmqServerBind ← optionalStr (get root .zmqServerBind) .zmqServerBind anyAddress
  let zmqServerPort ← serverZmqPort (get root .zmqServerPort)
  let notifyHttpUrl ← optionalStr (get root .notifyHttpUrl) .notifyHttpUrl noText
  let rpcTimeoutMs ← jsonUint32 (get root .rpcTimeoutMs) .rpcTimeoutMs
  let logVerbosity ← jsonRange (get root .logVerbosity) 0 3 .logVerbosity
  let ckNotifySocket ← ckSocket (get root .ckNotifySocket)
  validateUniqueLabels nodes
  .ok ⟨nodes, rpcServerBind, rpcServerPort, httpServerBind, httpServerPort, zmqServerBind,
    zmqServerPort, notifyHttpUrl, ckNotifySocket, rpcTimeoutMs, logVerbosity⟩

/-- `config_load`. -/
def configLoad (read : JsonReader) : ConfigFile → Except ConfigError Config
  | .noPath => .error .noPath
  | .cannotOpen => .error .cannotOpen
  | .outOfMemory => .error .outOfMemory
  | .shortRead => .error .shortRead
  | .contents bytes =>
      if bytes = [] then .error .emptyFile
      else
        match read bytes with
        | none => .error .parseError
        | some value =>
            match value.asObj with
            | none => .error .rootNotObject
            | some root => loadRoot root

/-! ## What was loaded -/

/-- The constraints on a configuration. -/
structure Valid (config : Config) : Prop where
  nodeCount : 1 ≤ config.nodes.length ∧ config.nodes.length ≤ maxNodes
  rpcPorts : ∀ node ∈ config.nodes, 1 ≤ node.rpcPort.toNat ∧ node.rpcPort.toNat ≤ 65535
  rpcServerPort : 1 ≤ config.rpcServerPort.toNat ∧ config.rpcServerPort.toNat ≤ 65535
  httpServerPort : 1 ≤ config.httpServerPort.toNat ∧ config.httpServerPort.toNat ≤ 65535
  zmqPorts : config.zmqServerPort.toNat ≤ 65535 ∧
    ∀ node ∈ config.nodes, node.zmqPort.toNat ≤ 65535
  rpcTimeoutMs : 0 < config.rpcTimeoutMs.toNat
  logVerbosity : 0 ≤ config.logVerbosity ∧ config.logVerbosity ≤ 3
  ckNotifySocket : config.ckNotifySocket.text.length ≤ 107
  labels : (config.nodes.map fun node => node.label.text).Nodup

/-- A result of two computations in a row is a result of both. -/
theorem bind_eq_ok_iff {Error Value Result : Type} {first : Except Error Value}
    {second : Value → Except Error Result} {result : Result} :
    (first >>= second) = .ok result ↔ ∃ value, first = .ok value ∧ second value = .ok result := by
  cases first with
  | error error => simp [bind, Except.bind]
  | ok value => simp [bind, Except.bind]

theorem jsonRange_eq_ok_iff {value : Option Json} {least greatest number : Int} {field : Field} :
    jsonRange value least greatest field = .ok number ↔
      value.bind Json.asInt = some number ∧ least ≤ number ∧ number ≤ greatest := by
  unfold jsonRange
  cases read : value.bind Json.asInt with
  | none => simp
  | some other =>
      dsimp only
      split_ifs with outside
      · simp only [Option.some.injEq, false_iff, not_and]
        rintro rfl
        omega
      · simp only [Except.ok.injEq, Option.some.injEq]
        constructor
        · rintro rfl
          exact ⟨rfl, by omega⟩
        · exact fun same => same.1

/-- A word is read as the number it stands for. -/
theorem jsonWord_eq_ok_iff {Word : Type} {ofNat : Nat → Word} {toNat : Word → Nat}
    {least greatest : Nat} (room : ∀ number ≤ greatest, toNat (ofNat number) = number)
    (whole : ∀ word, ofNat (toNat word) = word ∧ toNat word ≤ greatest)
    {value : Option Json} {field : Field} {word : Word} :
    jsonWord ofNat value least greatest field = .ok word ↔
      value.bind Json.asInt = some (toNat word : Int) ∧ least ≤ toNat word := by
  unfold jsonWord
  rw [bind_eq_ok_iff]
  constructor
  · rintro ⟨number, ranged, same⟩
    rcases jsonRange_eq_ok_iff.mp ranged with ⟨read, above, below⟩
    cases same
    rw [room _ (by omega), Int.toNat_of_nonneg (by omega)]
    exact ⟨read, by omega⟩
  · rintro ⟨read, above⟩
    rcases whole word with ⟨same, below⟩
    refine ⟨toNat word, jsonRange_eq_ok_iff.mpr ⟨read, by omega, by omega⟩, ?_⟩
    rw [Int.toNat_natCast, same]

theorem uint16_room (number : Nat) (small : number ≤ 65535) :
    (UInt16.ofNat number).toNat = number :=
  UInt16.toNat_ofNat_of_lt (Nat.lt_succ_of_le small)

theorem uint16_whole (port : UInt16) : UInt16.ofNat port.toNat = port ∧ port.toNat ≤ 65535 :=
  ⟨UInt16.ofNat_toNat, Nat.le_of_lt_succ port.toNat_lt⟩

theorem jsonUint16_eq_ok_iff {value : Option Json} {field : Field} {port : UInt16} :
    jsonUint16 value field = .ok port ↔
      value.bind Json.asInt = some (port.toNat : Int) ∧ 1 ≤ port.toNat :=
  jsonWord_eq_ok_iff uint16_room uint16_whole

theorem jsonUint32_eq_ok_iff {value : Option Json} {field : Field} {number : UInt32} :
    jsonUint32 value field = .ok number ↔
      value.bind Json.asInt = some (number.toNat : Int) ∧ 1 ≤ number.toNat :=
  jsonWord_eq_ok_iff (fun _ small => UInt32.toNat_ofNat_of_lt (Nat.lt_succ_of_le small))
    fun word => ⟨UInt32.ofNat_toNat, Nat.le_of_lt_succ word.toNat_lt⟩

theorem parseNode_rpcPort {idx : Nat} {value : Json} {node : NodeConfig}
    (parsed : parseNode idx value = .ok node) :
    1 ≤ node.rpcPort.toNat := by
  unfold parseNode at parsed
  split at parsed
  · cases parsed
  · simp only [bind_eq_ok_iff, Except.ok.injEq] at parsed
    rcases parsed with ⟨host, -, rpcPort, port, zmqPort, -, label, -, rfl⟩
    exact (jsonUint16_eq_ok_iff.mp port).2

/-- The loop reads as many nodes as there are values. -/
theorem parseNodesFrom_spec {idx : Nat} {values : List Json} {nodes : List NodeConfig}
    (parsed : parseNodesFrom idx values = .ok nodes) :
    nodes.length = values.length ∧ ∀ node ∈ nodes, 1 ≤ node.rpcPort.toNat := by
  induction values generalizing idx nodes with
  | nil =>
      cases parsed
      simp
  | cons value rest induction =>
      simp only [parseNodesFrom, bind_eq_ok_iff, Except.ok.injEq] at parsed
      rcases parsed with ⟨node, first, others, later, rfl⟩
      rcases induction later with ⟨length, ports⟩
      refine ⟨by rw [List.length_cons, length, List.length_cons], ?_⟩
      exact List.forall_mem_cons.mpr ⟨parseNode_rpcPort first, ports⟩

theorem parseNodes_spec {root : Json} {nodes : List NodeConfig}
    (parsed : parseNodes root = .ok nodes) :
    (1 ≤ nodes.length ∧ nodes.length ≤ maxNodes) ∧ ∀ node ∈ nodes, 1 ≤ node.rpcPort.toNat := by
  unfold parseNodes at parsed
  split at parsed
  · split_ifs at parsed with empty many
    rcases parseNodesFrom_spec parsed with ⟨length, ports⟩
    exact ⟨by omega, ports⟩
  · cases parsed

/-- The pairwise comparison finds every duplicate. -/
theorem validateUniqueLabels_eq_ok_iff {nodes : List NodeConfig} :
    validateUniqueLabels nodes = .ok () ↔
      (nodes.map fun node => node.label.text).Nodup := by
  induction nodes with
  | nil => simp [validateUniqueLabels]
  | cons node rest induction =>
      rw [validateUniqueLabels, List.map_cons, List.nodup_cons, ← induction]
      split_ifs with duplicate
      · simp only [List.any_eq_true, decide_eq_true_eq] at duplicate
        rcases duplicate with ⟨other, member, same⟩
        simp only [List.mem_map, false_iff, not_and]
        intro none
        exact absurd ⟨other, member, same.symm⟩ none
      · have distinct : node.label.text ∉ rest.map fun other => other.label.text := by
          intro member
          rcases List.mem_map.mp member with ⟨other, inside, same⟩
          apply duplicate
          simp only [List.any_eq_true, decide_eq_true_eq]
          exact ⟨other, inside, same.symm⟩
        simp [distinct]

/-- What `config_load` returns is valid. -/
theorem loadRoot_valid {root : Json} {config : Config} (loaded : loadRoot root = .ok config) :
    Valid config := by
  simp only [loadRoot, bind_eq_ok_iff, Except.ok.injEq] at loaded
  rcases loaded with ⟨nodes, parsed, rpcServerBind, -, rpcServerPort, rpcPort, httpServerBind, -,
    httpServerPort, httpPort, zmqServerBind, -, zmqServerPort, -, notifyHttpUrl, -, rpcTimeoutMs,
    timeout, logVerbosity, verbosity, ckNotifySocket, -, ⟨⟩, unique, rfl⟩
  rcases parseNodes_spec parsed with ⟨count, ports⟩
  have bound : ∀ port : UInt16, port.toNat ≤ 65535 := fun port => (uint16_whole port).2
  exact {
    nodeCount := count
    rpcPorts := fun node member => ⟨ports node member, bound _⟩
    rpcServerPort := ⟨(jsonUint16_eq_ok_iff.mp rpcPort).2, bound _⟩
    httpServerPort := ⟨(jsonUint16_eq_ok_iff.mp httpPort).2, bound _⟩
    zmqPorts := ⟨bound _, fun node _ => bound _⟩
    rpcTimeoutMs := (jsonUint32_eq_ok_iff.mp timeout).2
    logVerbosity := (jsonRange_eq_ok_iff.mp verbosity).2
    ckNotifySocket := Nat.le_of_lt_succ ckNotifySocket.fits
    labels := validateUniqueLabels_eq_ok_iff.mp unique }

/-! ## The JSON form -/

def textJson {size : Nat} (field : FieldText size) : Json :=
  .str field.text

def natJson (value : Nat) : Json :=
  .uint (UInt64.ofNat value)

/-- A node, without its `zmq_port` if that is zero. -/
def nodeJson (node : NodeConfig) : Json :=
  .obj ([(Field.label.key, textJson node.label), (Field.host.key, textJson node.host),
    (Field.rpcPort.key, natJson node.rpcPort.toNat)] ++
      if node.zmqPort = 0 then [] else [(Field.zmqPort.key, natJson node.zmqPort.toNat)])

def configJson (config : Config) : Json :=
  .obj [(Field.nodes.key, .arr (config.nodes.map nodeJson)),
    (Field.rpcServerBind.key, textJson config.rpcServerBind),
    (Field.rpcServerPort.key, natJson config.rpcServerPort.toNat),
    (Field.httpServerBind.key, textJson config.httpServerBind),
    (Field.httpServerPort.key, natJson config.httpServerPort.toNat),
    (Field.zmqServerBind.key, textJson config.zmqServerBind),
    (Field.zmqServerPort.key, natJson config.zmqServerPort.toNat),
    (Field.notifyHttpUrl.key, textJson config.notifyHttpUrl),
    (Field.rpcTimeoutMs.key, natJson config.rpcTimeoutMs.toNat),
    (Field.logVerbosity.key, natJson config.logVerbosity.toNat),
    (Field.ckNotifySocket.key, textJson config.ckNotifySocket)]

/-- Every field. -/
def Field.all : List Field :=
  [.nodes, .host, .rpcPort, .zmqPort, .label, .rpcServerBind, .rpcServerPort, .httpServerBind,
    .httpServerPort, .zmqServerBind, .zmqServerPort, .notifyHttpUrl, .rpcTimeoutMs, .logVerbosity,
    .ckNotifySocket]

/-- Different fields have different names. -/
@[simp]
theorem Field.key_inj (field other : Field) : field.key = other.key ↔ field = other := by
  have member : ∀ field : Field, field ∈ Field.all := by
    intro field
    cases field <;> decide
  have distinct : ∀ field ∈ Field.all, ∀ other ∈ Field.all,
      field.key = other.key ↔ field = other := by
    decide +kernel
  exact distinct field (member field) other (member other)

@[simp]
theorem get_cons (field other : Field) (value : Json) (rest : List (Memory × Json)) :
    get (.obj ((field.key, value) :: rest)) other =
      if field = other then some value else get (.obj rest) other := by
  unfold get Json.objGet
  by_cases same : field = other
  · simp [same]
  · simp [same]

@[simp]
theorem get_nil (field : Field) : get (.obj []) field = none :=
  rfl

theorem asInt_natJson {value : Nat} (small : value < 2 ^ 63) :
    (natJson value).asInt = some (value : Int) := by
  have number : (UInt64.ofNat value).toBitVec.toNat = value :=
    UInt64.toNat_ofNat_of_lt (by change value < 2 ^ 64; omega)
  change some (UInt64.ofNat value).toBitVec.toInt = _
  rw [BitVec.toInt_eq_toNat_of_lt (by omega), number]

theorem jsonStrCopy_textJson {size : Nat} (field : FieldText size) (name : Field) :
    jsonStrCopy (some (textJson field)) size name = .ok field := by
  have whole := cString_of_notMem field.clean
  have fits : (cString field.text).length < size := by
    rw [whole]
    exact field.fits
  change (if fits : (cString field.text).length < size then _ else _) = _
  rw [dif_pos fits]
  congr 1
  exact FieldText.ext whole

theorem optionalStr_textJson {size : Nat} (field default : FieldText size) (name : Field) :
    optionalStr (some (textJson field)) name default = .ok field :=
  jsonStrCopy_textJson field name

theorem ckSocket_textJson (field : FieldText 108) :
    ckSocket (some (textJson field)) = .ok field := by
  have whole := cString_of_notMem field.clean
  have length : (cString field.text).length = field.text.length := by rw [whole]
  have fits := field.fits
  unfold ckSocket textJson Json.asStr
  dsimp only
  by_cases empty : field.text.length = 0
  · rw [if_pos (by omega)]
    congr 1
    exact FieldText.ext (List.length_eq_zero_iff.mp empty).symm
  · rw [if_neg (by omega), dif_pos (by omega)]
    congr 1
    exact FieldText.ext whole

theorem jsonUint16_natJson {port : UInt16} (positive : 1 ≤ port.toNat) (name : Field) :
    jsonUint16 (some (natJson port.toNat)) name = .ok port := by
  have bound : port.toNat < 65536 := port.toNat_lt
  exact jsonUint16_eq_ok_iff.mpr ⟨asInt_natJson (by omega), positive⟩

theorem parseNode_nodeJson {node : NodeConfig} (positive : 1 ≤ node.rpcPort.toNat) (idx : Nat) :
    parseNode idx (nodeJson node) = .ok node := by
  have zmq : nodeZmqPort (get (nodeJson node) .zmqPort) = .ok node.zmqPort := by
    by_cases none : node.zmqPort = 0
    · simp [nodeJson, none, nodeZmqPort]
    · have some_ : 1 ≤ node.zmqPort.toNat := by
        rw [Nat.one_le_iff_ne_zero]
        exact fun zero => none (UInt16.toNat_inj.mp zero)
      simpa [nodeJson, none, nodeZmqPort] using jsonUint16_natJson some_ .zmqPort
  have host : get (nodeJson node) .host = some (textJson node.host) := by simp [nodeJson]
  have port : get (nodeJson node) .rpcPort = some (natJson node.rpcPort.toNat) := by
    simp [nodeJson]
  have label : get (nodeJson node) .label = some (textJson node.label) := by simp [nodeJson]
  have object : (nodeJson node).asObj = some (nodeJson node) := rfl
  rw [parseNode, object]
  dsimp only
  rw [host, port, label, zmq, jsonStrCopy_textJson, jsonUint16_natJson positive,
    jsonStrCopy_textJson]
  rfl

theorem parseNodesFrom_map {nodes : List NodeConfig}
    (positive : ∀ node ∈ nodes, 1 ≤ node.rpcPort.toNat) (idx : Nat) :
    parseNodesFrom idx (nodes.map nodeJson) = .ok nodes := by
  induction nodes generalizing idx with
  | nil => rfl
  | cons node rest induction =>
      rcases List.forall_mem_cons.mp positive with ⟨first, later⟩
      rw [List.map_cons, parseNodesFrom, parseNode_nodeJson first, induction later]
      rfl

theorem parseNodes_configJson {config : Config} (valid : Valid config) :
    parseNodes (configJson config) = .ok config.nodes := by
  have found : get (configJson config) .nodes = some (.arr (config.nodes.map nodeJson)) := by
    simp [configJson]
  have count := valid.nodeCount
  unfold parseNodes
  rw [found]
  dsimp only
  rw [List.length_map, if_neg (by omega), if_neg (by omega)]
  exact parseNodesFrom_map (fun node member => (valid.rpcPorts node member).1) 0

/-- A valid configuration is read back from its JSON form. -/
theorem loadRoot_configJson {config : Config} (valid : Valid config) :
    loadRoot (configJson config) = .ok config := by
  have timeout : jsonUint32 (some (natJson config.rpcTimeoutMs.toNat)) .rpcTimeoutMs =
      .ok config.rpcTimeoutMs := by
    have bound : config.rpcTimeoutMs.toNat < 2 ^ 32 := config.rpcTimeoutMs.toNat_lt
    exact jsonUint32_eq_ok_iff.mpr ⟨asInt_natJson (by omega), valid.rpcTimeoutMs⟩
  have zmqPort : serverZmqPort (some (natJson config.zmqServerPort.toNat)) =
      .ok config.zmqServerPort := by
    have read : (natJson config.zmqServerPort.toNat).asInt = _ :=
      asInt_natJson (by have bound := valid.zmqPorts.1; omega)
    rw [serverZmqPort, if_pos (by simp [read])]
    exact (jsonWord_eq_ok_iff uint16_room uint16_whole).mpr ⟨read, Nat.zero_le _⟩
  have verbosity : jsonRange (some (natJson config.logVerbosity.toNat)) 0 3 .logVerbosity =
      .ok config.logVerbosity := by
    have range := valid.logVerbosity
    have read : (natJson config.logVerbosity.toNat).asInt = some config.logVerbosity := by
      rw [asInt_natJson (by omega), Int.toNat_of_nonneg range.1]
    exact jsonRange_eq_ok_iff.mpr ⟨read, range⟩
  have rpcPort := jsonUint16_natJson valid.rpcServerPort.1 .rpcServerPort
  have httpPort := jsonUint16_natJson valid.httpServerPort.1 .httpServerPort
  have unique := validateUniqueLabels_eq_ok_iff.mpr valid.labels
  rw [loadRoot, parseNodes_configJson valid]
  simp [configJson, jsonStrCopy_textJson, optionalStr_textJson, ckSocket_textJson, timeout,
    zmqPort, verbosity, rpcPort, httpPort, unique, bind, Except.bind]

/--
Whatever the file holds, a configuration that is loaded satisfies the
constraints; and a configuration that satisfies them is loaded back, field by
field, from any text that the parser reads as its JSON form.
-/
theorem configLoad_sound_and_roundTrips (read : JsonReader) :
    (∀ file config, configLoad read file = .ok config → Valid config) ∧
      ∀ config, Valid config → ∀ text, text ≠ [] → read text = some (configJson config) →
        configLoad read (.contents text) = .ok config := by
  constructor
  · intro file config loaded
    unfold configLoad at loaded
    split at loaded
    · cases loaded
    · cases loaded
    · cases loaded
    · cases loaded
    · split_ifs at loaded
      split at loaded
      · cases loaded
      · split at loaded
        · cases loaded
        · exact loadRoot_valid loaded
  · intro config valid text nonempty parsed
    have object : (configJson config).asObj = some (configJson config) := rfl
    rw [configLoad, if_neg nonempty, parsed]
    dsimp only
    rw [object]
    exact loadRoot_configJson valid

/-- A string that fits its array. -/
def fieldText {size : Nat} (text : String) (fits : (ascii text).length < size)
    (clean : 0 ∉ ascii text) : FieldText size :=
  ⟨ascii text, fits, clean⟩

/-- Two nodes, of which only the first has a `zmq_port`. -/
def smallConfig : Config where
  nodes :=
    [⟨fieldText "192.168.1.1" (by decide) (by decide), 8332, 28332,
        fieldText "first" (by decide) (by decide)⟩,
      ⟨fieldText "192.168.1.2" (by decide) (by decide), 8332, 0,
        fieldText "second" (by decide) (by decide)⟩]
  rpcServerBind := fieldText "127.0.0.1" (by decide) (by decide)
  rpcServerPort := 9332
  httpServerBind := anyAddress
  httpServerPort := 8080
  zmqServerBind := anyAddress
  zmqServerPort := 0
  notifyHttpUrl := fieldText "http://pool/notify" (by decide) (by decide)
  ckNotifySocket := fieldText "/tmp/ckpool" (by decide) (by decide)
  rpcTimeoutMs := 30000
  logVerbosity := 1

/-- The file of this configuration. -/
def smallText : Memory :=
  ascii "\x7b\"nodes\":[" ++
    ascii "\x7b\"label\":\"first\",\"host\":\"192.168.1.1\",\"rpc_port\":8332," ++
    ascii "\"zmq_port\":28332\x7d," ++
    ascii "\x7b\"label\":\"second\",\"host\":\"192.168.1.2\",\"rpc_port\":8332\x7d]," ++
    ascii "\"rpc_server_bind\":\"127.0.0.1\",\"rpc_server_port\":9332," ++
    ascii "\"http_server_bind\":\"0.0.0.0\",\"http_server_port\":8080," ++
    ascii "\"zmq_server_bind\":\"0.0.0.0\",\"zmq_server_port\":0," ++
    ascii "\"notify_http_url\":\"http://pool/notify\",\"rpc_timeout_ms\":30000," ++
    ascii "\"log_verbosity\":1,\"ck_notify_socket\":\"/tmp/ckpool\"\x7d"

/-- The value of that text. -/
def smallJson : Json :=
  .obj [(ascii "nodes", .arr
      [.obj [(ascii "label", .str (ascii "first")), (ascii "host", .str (ascii "192.168.1.1")),
        (ascii "rpc_port", .uint 8332), (ascii "zmq_port", .uint 28332)],
      .obj [(ascii "label", .str (ascii "second")), (ascii "host", .str (ascii "192.168.1.2")),
        (ascii "rpc_port", .uint 8332)]]),
    (ascii "rpc_server_bind", .str (ascii "127.0.0.1")),
    (ascii "rpc_server_port", .uint 9332),
    (ascii "http_server_bind", .str (ascii "0.0.0.0")),
    (ascii "http_server_port", .uint 8080),
    (ascii "zmq_server_bind", .str (ascii "0.0.0.0")),
    (ascii "zmq_server_port", .uint 0),
    (ascii "notify_http_url", .str (ascii "http://pool/notify")),
    (ascii "rpc_timeout_ms", .uint 30000),
    (ascii "log_verbosity", .uint 1),
    (ascii "ck_notify_socket", .str (ascii "/tmp/ckpool"))]

/-- A parser that is right about this text. -/
def smallRead : JsonReader := fun text =>
  if text = smallText then some smallJson else none

theorem smallConfig_valid : Valid smallConfig := by
  constructor <;> decide +kernel

theorem configLoad_sound_and_roundTrips_smallConfig :
    Valid smallConfig ∧ smallRead smallText = some smallJson ∧
      configJson smallConfig = smallJson ∧
      configLoad smallRead (.contents smallText) = .ok smallConfig := by
  have parsed : smallRead smallText = some smallJson := if_pos rfl
  have form : configJson smallConfig = smallJson := rfl
  have loaded := (configLoad_sound_and_roundTrips smallRead).2 smallConfig smallConfig_valid
    smallText (by decide +kernel)
  exact ⟨smallConfig_valid, parsed, form, loaded (parsed.trans (congrArg some form.symm))⟩

/-! ## The nodes of the notifier -/

/-- The part of a configuration that the notifier reads. -/
def notifyConfig (config : Config) : BlockNotify.Config config.nodes.length where
  nodes node := ⟨(config.nodes.get node).label.text, (config.nodes.get node).zmqPort.toNat⟩

/-- In a valid configuration a node is found by its label. -/
theorem sourceNodeIdx_notifyConfig {config : Config} (valid : Valid config)
    (node : Fin config.nodes.length) :
    BlockNotify.sourceNodeIdx (notifyConfig config)
      (some ((notifyConfig config).nodes node).label) = some node := by
  have labelled : ∀ other, ((notifyConfig config).nodes other).label =
      ((notifyConfig config).nodes node).label → other = node := by
    intro other same
    have length : (config.nodes.map fun node => node.label.text).length = config.nodes.length :=
      List.length_map _
    have labels : (config.nodes.map fun node => node.label.text).get (other.cast length.symm) =
        (config.nodes.map fun node => node.label.text).get (node.cast length.symm) := by
      simpa [notifyConfig] using same
    have position := List.nodup_iff_injective_get.mp valid.labels labels
    exact Fin.cast_injective length.symm position
  rw [BlockNotify.sourceNodeIdx, Option.bind_some]
  cases found : (List.finRange config.nodes.length).find? fun other =>
      ((notifyConfig config).nodes other).label = ((notifyConfig config).nodes node).label with
  | none =>
      have absent := List.find?_eq_none.mp found node (List.mem_finRange node)
      simp at absent
  | some other =>
      have same := List.find?_some found
      rw [labelled other (of_decide_eq_true same)]

end RpcRace.ConfigLoad
