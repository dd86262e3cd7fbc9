import RpcRace.Library.Sending
import RpcRace.NotifyUrl
import RpcRace.RpcConn

/-!
# The relays of a notification

`relay_http_notify` and `relay_ck_notify` of `notifier.c`.  Each keeps one
connection, opens it on demand, makes one non-blocking write for a
notification, and closes the connection if the message was cut.  The answers
of the kernel are part of a notification.

Both streams carry whole messages (`relays_wholeStreams`).  The HTTP relay
reads until nothing is left, but does not tell the end of the stream from a
read that would block.  It goes on with a connection that the other side has
closed (`hangUpsHeeded_iff`).
-/

namespace RpcRace.Relays

open RpcRace.Library.CString
open RpcRace.Library.Run
open RpcRace.Library.Sending
open RpcRace.RpcConn (RecvResult SendResult)
open RpcRace.BlockNotify (BlockHash)
open RpcRace.NotifyUrl

/-! ## Configuration and state -/

/-- What `notifier_create` found configured. -/
structure Config where
  ckConfigured : Bool
  http : Option {parts : UrlParts // parts.Fits}

/-- `notify_http_fd` and `notify_http_state`. -/
structure HttpRelay where
  courier : Courier Byte
  connected : Bool

structure State where
  ck : Courier Byte
  http : HttpRelay

/-- A hash to relay, with the answers to the system calls that it may lead to. -/
structure Notification where
  hash : BlockHash
  httpConnects : Bool
  httpWrite : SendResult
  httpReads : List RecvResult
  ckConnects : Bool
  ckWrite : SendResult

/-! ## The CK relay -/

/-- `CK_UPDATE_MSG`: the length in little-endian order, and the command. -/
def ckUpdateMsg : Memory :=
  [6, 0, 0, 0] ++ ascii "update"

/-- The write of `relay_ck_notify`. -/
def ckWrite (ck : Courier Byte) (conn : Nat) : SendResult → Courier Byte
  | .again => ck.write conn ckUpdateMsg 0
  | .failed => (ck.write conn ckUpdateMsg 0).close conn
  | .accepted count =>
      let ret := min count ckUpdateMsg.length
      if ret = ckUpdateMsg.length then ck.write conn ckUpdateMsg ret
      else (ck.write conn ckUpdateMsg ret).close conn

/-- `relay_ck_notify`. -/
def relayCkNotify (config : Config) (ck : Courier Byte) (notification : Notification) :
    Courier Byte :=
  if config.ckConfigured = false then ck
  else
    match ck.conn with
    | some conn => ckWrite ck conn notification.ckWrite
    | none =>
        if notification.ckConnects = false then ck
        else ckWrite ck.connect ck.next notification.ckWrite

/-! ## The HTTP relay -/

/-- The loop that discards a response: whether it ended at the end of the stream. -/
def drain : List RecvResult → Bool
  | [] => false
  | .again :: _ => false
  | .failed :: _ => false
  | .data [] :: _ => true
  | .data _ :: rest => drain rest

/-- `relay_http_notify` up to its write: a connection is opened unless there is one. -/
def httpReconnect (http : HttpRelay) (connects : Bool) : HttpRelay :=
  if http.courier.conn.isNone || !http.connected then
    let closed :=
      match http.courier.conn with
      | some conn => http.courier.close conn
      | none => http.courier
    if connects then ⟨closed.connect, true⟩ else { http with courier := closed }
  else http

/-- The write of `relay_http_notify`, and the drain after a whole one. -/
def httpWrite (http : HttpRelay) (conn : Nat) (request : Memory) (reads : List RecvResult) :
    SendResult → HttpRelay
  | .again => { http with courier := http.courier.write conn request 0 }
  | .failed => ⟨(http.courier.write conn request 0).close conn, false⟩
  | .accepted count =>
      let sent := min count request.length
      if sent < request.length then ⟨(http.courier.write conn request sent).close conn, false⟩
      else
        let written := http.courier.write conn request sent
        -- Nothing is done about the end of the stream; it is only recorded here.
        { http with courier := if drain reads then written.hangUp conn else written }

/-- `relay_http_notify` with the request that it has built. -/
def httpSend (http : HttpRelay) (request : Memory) (notification : Notification) : HttpRelay :=
  let ready := httpReconnect http notification.httpConnects
  match ready.courier.conn with
  | none => ready
  | some conn => httpWrite ready conn request notification.httpReads notification.httpWrite

/-- `relay_http_notify`. -/
def relayHttpNotify (config : Config) (http : HttpRelay) (notification : Notification) :
    HttpRelay :=
  match config.http with
  | none => http
  | some parts =>
      match buildRequest parts.1 notification.hash with
      | .error _ => http
      | .ok request => httpSend http request notification

/-! ## Runs -/

/-- The relays of `notifier_create`, which tries to open the CK socket. -/
def createRelays (config : Config) (ckConnects : Bool) : State :=
  ⟨if config.ckConfigured && ckConnects then Courier.fresh.connect else Courier.fresh,
    ⟨Courier.fresh, false⟩⟩

def step (config : Config) (relays : State) (notification : Notification) : State where
  http := relayHttpNotify config relays.http notification
  ck := relayCkNotify config relays.ck notification

/-- A request that the HTTP relay may write. -/
def IsRequest (config : Config) (message : Memory) : Prop :=
  ∃ parts ∈ config.http, ∃ hash, buildRequest parts.1 hash = .ok message

/-! ## What a call does -/

section Moves

variable (config : Config) (notification : Notification)

theorem ckWrite_attempt {ck : Courier Byte} {conn : Nat} (held : ck.conn = some conn)
    (result : SendResult) :
    Attempt ckUpdateMsg ck (ckWrite ck conn result) := by
  cases result with
  | again => exact .kept held (Or.inl rfl)
  | failed => exact .givenUp held (Nat.zero_le _)
  | accepted count =>
      unfold ckWrite
      dsimp only
      split_ifs with whole
      · exact .kept held (Or.inr whole)
      · exact .givenUp held (Nat.min_le_right _ _)

theorem relayCkNotify_delivery (ck : Courier Byte) :
    Delivery ckUpdateMsg ck (relayCkNotify config ck notification) := by
  unfold relayCkNotify
  by_cases off : config.ckConfigured = false
  · rw [if_pos off]
    exact .skipped
  · rw [if_neg off]
    cases held : ck.conn with
    | some conn => exact .held (ckWrite_attempt held _)
    | none =>
        dsimp only
        split_ifs
        · exact .skipped
        · exact .connected held (ckWrite_attempt rfl _)

/-- The state says whether there is a descriptor. -/
def HttpRelay.Consistent (http : HttpRelay) : Prop :=
  http.connected = http.courier.conn.isSome

/-- A write, and then perhaps a hang-up of a connection that is kept. -/
def HttpMove (message : Memory) (before after : Courier Byte) : Prop :=
  ∃ sent, Delivery message before sent ∧
    (after = sent ∨ ∃ conn, sent.conn = some conn ∧ after = sent.hangUp conn)

theorem httpWrite_attempt {http : HttpRelay} {conn : Nat} (held : http.courier.conn = some conn)
    (consistent : http.Consistent) (request : Memory) (reads : List RecvResult)
    (result : SendResult) :
    (httpWrite http conn request reads result).Consistent ∧
      ∃ sent, Attempt request http.courier sent ∧
        ((httpWrite http conn request reads result).courier = sent ∨
          ∃ other, sent.conn = some other ∧
            (httpWrite http conn request reads result).courier = sent.hangUp other) := by
  cases result with
  | again => exact ⟨consistent, _, .kept held (Or.inl rfl), Or.inl rfl⟩
  | failed => exact ⟨rfl, _, .givenUp held (Nat.zero_le _), Or.inl rfl⟩
  | accepted count =>
      unfold httpWrite
      dsimp only
      split_ifs with short ended
      · exact ⟨rfl, _, .givenUp held (Nat.min_le_right _ _), Or.inl rfl⟩
      · exact ⟨consistent, _, .kept held (Or.inr (by omega)), Or.inr ⟨conn, held, rfl⟩⟩
      · exact ⟨consistent, _, .kept held (Or.inr (by omega)), Or.inl rfl⟩

theorem httpReconnect_held {http : HttpRelay} (consistent : http.Consistent) {conn : Nat}
    (held : http.courier.conn = some conn) (connects : Bool) :
    httpReconnect http connects = http := by
  have connected : http.connected = true := by
    rw [consistent, held]
    rfl
  simp [httpReconnect, held, connected]

theorem httpSend_move {http : HttpRelay} (consistent : http.Consistent) (request : Memory) :
    (httpSend http request notification).Consistent ∧
      HttpMove request http.courier (httpSend http request notification).courier := by
  unfold httpSend
  dsimp only
  cases held : http.courier.conn with
  | some conn =>
      rw [httpReconnect_held consistent held, held]
      rcases httpWrite_attempt held consistent request notification.httpReads
        notification.httpWrite with ⟨after, sent, attempt, result⟩
      exact ⟨after, sent, .held attempt, result⟩
  | none =>
      by_cases connects : notification.httpConnects = true
      · have ready : httpReconnect http notification.httpConnects =
            ⟨http.courier.connect, true⟩ := by
          simp [httpReconnect, held, connects]
        have opened : (HttpRelay.mk http.courier.connect true).courier.conn =
          some http.courier.next := rfl
        rw [ready, opened]
        rcases httpWrite_attempt opened rfl request notification.httpReads
          notification.httpWrite with ⟨after, sent, attempt, result⟩
        exact ⟨after, sent, .connected held attempt, result⟩
      · have ready : httpReconnect http notification.httpConnects = http := by
          simp [httpReconnect, held, connects]
        rw [ready, held]
        exact ⟨consistent, http.courier, .skipped, Or.inl rfl⟩

/-- The relay does nothing, or it sends a request. -/
theorem relayHttpNotify_move {http : HttpRelay} (consistent : http.Consistent) :
    (relayHttpNotify config http notification).Consistent ∧
      ((relayHttpNotify config http notification).courier = http.courier ∨
        ∃ request, IsRequest config request ∧
          HttpMove request http.courier (relayHttpNotify config http notification).courier) := by
  unfold relayHttpNotify
  split
  · exact ⟨consistent, Or.inl rfl⟩
  · rename_i parts configured
    split
    · exact ⟨consistent, Or.inl rfl⟩
    · rename_i request built
      rcases httpSend_move notification consistent request with ⟨after, move⟩
      exact ⟨after, Or.inr ⟨request, ⟨parts, configured, _, built⟩, move⟩⟩

/-- A held connection is written to, whatever is known of it. -/
theorem relayHttpNotify_held {http : HttpRelay} (consistent : http.Consistent) {conn : Nat}
    (held : http.courier.conn = some conn) (configured : config.http ≠ none) :
    ∃ added request count, (relayHttpNotify config http notification).courier.log =
      added ++ .wrote conn request count :: http.courier.log := by
  rcases Option.ne_none_iff_exists'.mp configured with ⟨parts, found⟩
  rcases buildRequest_of_fits parts.2 notification.hash with ⟨target, built, -⟩
  simp only [relayHttpNotify, httpSend, found, built, httpReconnect_held consistent held, held]
  cases notification.httpWrite with
  | again => exact ⟨[], _, _, rfl⟩
  | failed => exact ⟨[.closed conn], _, _, rfl⟩
  | accepted count =>
      unfold httpWrite
      dsimp only
      split_ifs
      · exact ⟨[.closed conn], _, _, rfl⟩
      · exact ⟨[.hungUp conn], _, _, rfl⟩
      · exact ⟨[], _, _, rfl⟩

end Moves

theorem HttpMove.kept {valid : Memory → Prop} {message : Memory} {before after : Courier Byte}
    (move : HttpMove message before after) (kept : Kept valid before) (new : valid message) :
    Kept valid after := by
  rcases move with ⟨sent, delivery, rfl | ⟨conn, held, rfl⟩⟩
  · exact kept.delivery new delivery
  · exact (kept.delivery new delivery).hangUp held

theorem HttpMove.writeCount_le {message : Memory} {before after : Courier Byte}
    (move : HttpMove message before after) :
    writeCount after.log ≤ writeCount before.log + 1 := by
  rcases move with ⟨sent, delivery, rfl | ⟨conn, -, rfl⟩⟩
  · exact delivery.writeCount_le
  · exact delivery.writeCount_le

/-! ## Whole messages -/

/-- What both relays keep to. -/
structure Sound (config : Config) (relays : State) : Prop where
  ck : Kept (· = ckUpdateMsg) relays.ck
  http : Kept (IsRequest config) relays.http.courier
  consistent : relays.http.Consistent

theorem createRelays_sound (config : Config) (ckConnects : Bool) :
    Sound config (createRelays config ckConnects) := by
  refine ⟨?_, Kept.fresh, rfl⟩
  unfold createRelays
  dsimp only
  split_ifs
  · exact Kept.fresh.connect
  · exact Kept.fresh

theorem step_sound (config : Config) (relays : State) (notification : Notification)
    (sound : Sound config relays) :
    Sound config (step config relays notification) := by
  rcases relayHttpNotify_move config notification sound.consistent with ⟨consistent, moved⟩
  refine ⟨sound.ck.delivery rfl (relayCkNotify_delivery config notification relays.ck), ?_,
    consistent⟩
  change Kept _ (relayHttpNotify config relays.http notification).courier
  rcases moved with same | ⟨request, isRequest, move⟩
  · rw [same]
    exact sound.http
  · exact move.kept sound.http isRequest

/-- A notification leads to one write for each relay at most. -/
def OneWrite (config : Config) (relays : State) (notification : Notification) : Prop :=
  writeCount (step config relays notification).ck.log ≤ writeCount relays.ck.log + 1 ∧
    writeCount (step config relays notification).http.courier.log ≤
      writeCount relays.http.courier.log + 1

theorem oneWrite (config : Config) (relays : State) (notification : Notification)
    (sound : Sound config relays) :
    OneWrite config relays notification := by
  refine ⟨(relayCkNotify_delivery config notification relays.ck).writeCount_le, ?_⟩
  change writeCount (relayHttpNotify config relays.http notification).courier.log ≤ _
  rcases (relayHttpNotify_move config notification sound.consistent).2 with same | ⟨_, -, move⟩
  · rw [same]
    exact Nat.le_succ _
  · exact move.writeCount_le

/--
Whatever the kernel answers, the stream of every CK connection consists of
update frames and that of every HTTP connection of requests, up to a cut
message on a connection that is closed and not written to again.  No
notification leads to a second write.
-/
theorem relays_wholeStreams (config : Config) (ckConnects : Bool)
    (notifications : List Notification) :
    WholeStreams (· = ckUpdateMsg)
        (run (step config) (createRelays config ckConnects) notifications).ck.log ∧
      WholeStreams (IsRequest config)
        (run (step config) (createRelays config ckConnects) notifications).http.courier.log ∧
      Along (step config) (OneWrite config) (createRelays config ckConnects) notifications := by
  have start := createRelays_sound config ckConnects
  have sound := run_invariant (step_sound config) start notifications
  refine ⟨sound.ck.wholeStreams, sound.http.wholeStreams, along_iff.mpr ?_⟩
  intro before notification after split
  exact oneWrite config _ notification (run_invariant (step_sound config) start before)

/-! ## Hang-ups -/

/-- No connection is written to after the end of its stream was read. -/
def HangUpsHeeded (relays : State) : Prop :=
  AtEach (NotAfter .hungUp) relays.http.courier.log

instance decidableHangUpsHeeded : DecidablePred HangUpsHeeded :=
  fun relays => inferInstanceAs (Decidable (AtEach (NotAfter .hungUp) relays.http.courier.log))

/-- The relay holds a connection whose end of the stream was read. -/
def HoldsHungUp (relays : State) : Prop :=
  ∃ conn, relays.http.courier.conn = some conn ∧ .hungUp conn ∈ relays.http.courier.log

/-- The invariant of a run without a notification on such a connection. -/
structure Heeding (config : Config) (relays : State) : Prop where
  sound : Sound config relays
  heeded : HangUpsHeeded relays
  configured : relays.http.courier.conn ≠ none → config.http ≠ none

theorem step_heeding (config : Config) (relays : State) (notification : Notification)
    (heeding : Heeding config relays) (up : ¬ HoldsHungUp relays) :
    Heeding config (step config relays notification) := by
  refine ⟨step_sound config relays notification heeding.sound, ?_, ?_⟩
  · change AtEach _ (relayHttpNotify config relays.http notification).courier.log
    rcases (relayHttpNotify_move config notification heeding.sound.consistent).2 with
      same | ⟨request, -, sent, delivery, result⟩
    · rw [same]
      exact heeding.heeded
    · have each := delivery.notAfter_hungUp heeding.sound.http
        (fun conn held hung => up ⟨conn, held, hung⟩) heeding.heeded
      rcases result with same | ⟨conn, -, hung⟩
      · rwa [same]
      · rw [hung]
        exact ⟨trivial, each⟩
  · intro held off
    apply held
    change (relayHttpNotify config relays.http notification).courier.conn = none
    rw [relayHttpNotify, off]
    by_contra before
    exact heeding.configured before off

theorem not_holdsHungUp_of_heeded (config : Config) (relays : State) (notification : Notification)
    (heeding : Heeding config relays)
    (after : HangUpsHeeded (step config relays notification)) :
    ¬ HoldsHungUp relays := by
  rintro ⟨conn, held, hung⟩
  rcases relayHttpNotify_held config notification heeding.sound.consistent held
    (heeding.configured (by simp [held])) with ⟨added, request, count, log⟩
  have each : AtEach (NotAfter .hungUp)
      (relayHttpNotify config relays.http notification).courier.log := after
  rw [log] at each
  exact each.of_append.1 hung

/--
No connection is written to after a drain has read the end of its stream,
exactly if no notification arrives while such a connection is held: the next
notification always goes to it.
-/
theorem hangUpsHeeded_iff (config : Config) (ckConnects : Bool)
    (notifications : List Notification) :
    Throughout (step config) HangUpsHeeded (createRelays config ckConnects) notifications ↔
      Along (step config) (fun relays _ => ¬ HoldsHungUp relays)
        (createRelays config ckConnects) notifications := by
  have start : Heeding config (createRelays config ckConnects) :=
    ⟨createRelays_sound config ckConnects, trivial, fun held => absurd rfl held⟩
  exact throughout_iff_along (step_heeding config) (fun _ heeding => heeding.heeded)
    (not_holdsHungUp_of_heeded config) start notifications

/-- An HTTP relay and no CK relay. -/
def exampleConfig : Config :=
  ⟨false, some ⟨⟨ascii "10.0.0.7", 80, ascii "/"⟩, by decide +kernel, by decide +kernel, by decide⟩⟩

/-- A notification that is written whole, and then the end of the stream. -/
def answeredAndClosed (byte : Byte) : Notification where
  hash := BlockNotify.exampleHash byte
  httpConnects := true
  httpWrite := .accepted 2048
  httpReads := [.data (ascii "HTTP/1.1 200 OK\r\nConnection: close\r\n\r\n"), .data []]
  ckConnects := false
  ckWrite := .failed

/-- The second notification goes to the connection that the first one saw closed. -/
theorem answeredAndClosed_not_heeded :
    ¬ Throughout (step exampleConfig) HangUpsHeeded (createRelays exampleConfig false)
      [answeredAndClosed 1, answeredAndClosed 2] := by
  intro everywhere
  have heeded := throughout_end everywhere
  revert heeded
  decide +kernel

/-! ## The notifier and its relays -/

section System

variable {n : Nat}

/-- The notifier together with the relays that it calls. -/
structure System (n : Nat) where
  notifier : BlockNotify.Notifier n
  relays : State

/-- The hash that a call into the notifier hands to the relays. -/
def handed (before after : BlockNotify.Notifier n) : Option BlockHash :=
  if (BlockNotify.relays before.trace).length < (BlockNotify.relays after.trace).length then
    (BlockNotify.relays after.trace).head?
  else none

/-- A call into the notifier, with the answers for the relays that it may call. -/
def systemStep (notify : BlockNotify.Config n) (config : Config) (system : System n)
    (event : BlockNotify.Event n × Notification) : System n :=
  let after := BlockNotify.step notify system.notifier event.1
  match handed system.notifier after with
  | none => ⟨after, system.relays⟩
  | some hash => ⟨after, step config system.relays { event.2 with hash := hash }⟩

/-- A call into the notifier relays one hash at most. -/
theorem relays_step (notify : BlockNotify.Config n) (notifier : BlockNotify.Notifier n)
    (event : BlockNotify.Event n) :
    BlockNotify.relays (BlockNotify.step notify notifier event).trace =
        BlockNotify.relays notifier.trace ∨
      ∃ hash, BlockNotify.relays (BlockNotify.step notify notifier event).trace =
        hash :: BlockNotify.relays notifier.trace := by
  cases event with
  | report label hash =>
      have move := BlockNotify.notifierProcessHash_move notify notifier label hash
      change BlockNotify.relays (BlockNotify.notifierProcessHash notify notifier hash label).trace =
          _ ∨ ∃ other, BlockNotify.relays
            (BlockNotify.notifierProcessHash notify notifier hash label).trace = _
      generalize BlockNotify.notifierProcessHash notify notifier hash label = result at move
      cases move with
      | duplicate => exact Or.inl (by simp)
      | suppressed => exact Or.inr ⟨hash, by simp⟩
      | accepted => exact Or.inr ⟨hash, by simp⟩
  | silenceCheck inIbd =>
      rcases BlockNotify.silenceCheckCb_warnings notify inIbd notifier with
        ⟨warned, added, result, warnings⟩
      left
      rw [BlockNotify.step, result]
      exact BlockNotify.relays_append warnings notifier.trace
  | elapse duration => exact Or.inl rfl

/-- The relays see the relayed hashes, each once and in order. -/
theorem run_systemStep (notify : BlockNotify.Config n) (config : Config) (system : System n)
    (events : List (BlockNotify.Event n × Notification)) :
    ∃ notifications,
      (run (systemStep notify config) system events).relays =
        run (step config) system.relays notifications ∧
      BlockNotify.relays (run (systemStep notify config) system events).notifier.trace =
        (notifications.map Notification.hash).reverse ++
          BlockNotify.relays system.notifier.trace := by
  induction events generalizing system with
  | nil => exact ⟨[], rfl, rfl⟩
  | cons event rest induction =>
      rcases induction (systemStep notify config system event) with ⟨later, relayed, hashes⟩
      rw [run_cons, relayed, hashes]
      unfold systemStep
      dsimp only
      rcases relays_step notify system.notifier event.1 with same | ⟨hash, one⟩
      · have none_ : handed system.notifier
            (BlockNotify.step notify system.notifier event.1) = none := by
          simp [handed, same]
        rw [none_]
        exact ⟨later, rfl, by rw [same]⟩
      · have some_ : handed system.notifier
            (BlockNotify.step notify system.notifier event.1) = some hash := by
          simp [handed, one]
        rw [some_]
        refine ⟨{ event.2 with hash := hash } :: later, rfl, ?_⟩
        rw [one]
        simp

end System

end RpcRace.Relays
