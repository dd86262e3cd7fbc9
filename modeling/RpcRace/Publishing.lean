import RpcRace.ZmqDraining
import RpcRace.Relays

/-!
# Publishing block hashes

`relay_zmq_pub` of `notifier.c` sends a notification as three frames, and
gives up at the first one that the socket does not take.  If that is not the
topic, the message is left without its end, and the next notification becomes
a part of it.  `whole_iff_uncut` says that this is the only danger.

A subscriber of this socket may be another instance of the program.  As long
as no message is cut, the drain of its own socket reports the hashes that were
published, in order (`chained_of_uncut`).
-/

namespace RpcRace.Publishing

open RpcRace.Library.CString
open RpcRace.Library.Run
open RpcRace.BlockNotify (BlockHash Config Notifier notifierProcessHash processCalls)
open RpcRace.Relays (handed relays_step)
open RpcRace.ZmqSubscriptions
open RpcRace.ZmqDraining

/-! ## `relay_zmq_pub` -/

/-- Whether `zmq_msg_send` takes the frames of a notification. -/
structure Sends where
  topic : Bool
  hash : Bool
  seq : Bool
deriving DecidableEq, Repr

/--
The PUB socket and `zmq_pub_seq`.  `frames` is what the socket has taken, and
`published` are the notifications that were sent in full, both oldest first.
-/
structure Publisher where
  zmqPub : Bool
  zmqPubSeq : UInt32
  frames : List Frame
  published : List (BlockHash × UInt32)

/-- The publisher of `notifier_create`; without a configured port there is no socket. -/
def createPublisher (zmqPub : Bool) : Publisher :=
  ⟨zmqPub, 0, [], []⟩

/-- The bytes of a sequence number, in little-endian order. -/
def seqBytes (seq : UInt32) : Memory :=
  [seq.toUInt8, (seq >>> 8).toUInt8, (seq >>> 16).toUInt8, (seq >>> 24).toUInt8]

/-- A successful `zmq_msg_send`. -/
@[simps]
def Publisher.send (publisher : Publisher) (content : Memory) (more : Bool) : Publisher :=
  { publisher with frames := publisher.frames ++ [⟨content, more⟩] }

/-- `relay_zmq_pub`. -/
def relayZmqPub (publisher : Publisher) (hash : BlockHash) (sends : Sends) : Publisher :=
  if publisher.zmqPub = false then publisher
  else if sends.topic = false then publisher
  else
    let topicSent := publisher.send topicHashblock true
    if sends.hash = false then topicSent
    else
      let hashSent :=
        { topicSent.send hash.1 true with zmqPubSeq := publisher.zmqPubSeq + 1 }
      if sends.seq = false then hashSent
      else
        { hashSent.send (seqBytes publisher.zmqPubSeq) false with
          published := publisher.published ++ [(hash, publisher.zmqPubSeq)] }

/-- The message of a notification. -/
def messageOf (notification : BlockHash × UInt32) : Message :=
  ⟨topicHashblock, [notification.1.1, seqBytes notification.2]⟩

/-- A notification, with the answers of the socket. -/
def publish (publisher : Publisher) (event : BlockHash × Sends) : Publisher :=
  relayZmqPub publisher event.1 event.2

/-! ## Whole messages -/

/-- The socket has taken the messages of the published notifications, and nothing else. -/
def Whole (publisher : Publisher) : Prop :=
  publisher.frames = queued (publisher.published.map messageOf)

/-- The socket takes the topic of a message but not the rest. -/
def Cut (publisher : Publisher) (event : BlockHash × Sends) : Prop :=
  publisher.zmqPub = true ∧ event.2.topic = true ∧ (event.2.hash = false ∨ event.2.seq = false)

instance (publisher : Publisher) (event : BlockHash × Sends) :
    Decidable (Cut publisher event) :=
  inferInstanceAs (Decidable (_ ∧ _ ∧ _))

/-- What a call does. -/
inductive PublishMove (publisher : Publisher) (event : BlockHash × Sends) : Publisher → Prop where
  | skipped (unsent : publisher.zmqPub = false ∨ event.2.topic = false) :
      PublishMove publisher event publisher
  | sent (configured : publisher.zmqPub = true) (topic : event.2.topic = true)
      (uncut : ¬ Cut publisher event) :
      PublishMove publisher event
        { publisher with
          zmqPubSeq := publisher.zmqPubSeq + 1
          frames := publisher.frames ++ framesOf topicHashblock
            [event.1.1, seqBytes publisher.zmqPubSeq]
          published := publisher.published ++ [(event.1, publisher.zmqPubSeq)] }
  | cut (result : Publisher) (first : Frame) (rest : List Frame)
      (cut : Cut publisher event)
      (frames_eq : result.frames = publisher.frames ++ first :: rest)
      (published_eq : result.published = publisher.published) :
      PublishMove publisher event result

theorem publish_move (publisher : Publisher) (event : BlockHash × Sends) :
    PublishMove publisher event (publish publisher event) := by
  unfold publish relayZmqPub
  dsimp only
  split_ifs with off unsent short endless
  · exact .skipped (Or.inl off)
  · exact .skipped (Or.inr unsent)
  · exact .cut _ ⟨topicHashblock, true⟩ []
      ⟨by simpa using off, by simpa using unsent, Or.inl short⟩ rfl rfl
  · exact .cut _ ⟨topicHashblock, true⟩ [⟨event.1.1, true⟩]
      ⟨by simpa using off, by simpa using unsent, Or.inr endless⟩ (by simp) rfl
  · have uncut : ¬ Cut publisher event := by
      rintro ⟨-, -, noHash | noSeq⟩
      · exact short noHash
      · exact endless noSeq
    have sent := PublishMove.sent (by simpa using off) (by simpa using unsent) uncut
    simpa [framesOf] using sent

theorem queued_append (first second : List Message) :
    queued (first ++ second) = queued first ++ queued second :=
  List.flatMap_append

/-- What holds while no message is cut: the numbers of the notifications count them. -/
structure Counting (publisher : Publisher) : Prop where
  whole : Whole publisher
  numbered : publisher.published.map Prod.snd =
    (List.range publisher.published.length).map UInt32.ofNat
  next : publisher.zmqPubSeq = UInt32.ofNat publisher.published.length

theorem publish_counting (publisher : Publisher) (event : BlockHash × Sends)
    (counting : Counting publisher) (uncut : ¬ Cut publisher event) :
    Counting (publish publisher event) := by
  have move := publish_move publisher event
  generalize publish publisher event = result at move
  cases move with
  | skipped => exact counting
  | sent configured topic =>
      refine ⟨?_, ?_, ?_⟩
      · simp only [Whole, List.map_append, queued_append]
        rw [counting.whole]
        rfl
      · rw [List.map_append, counting.numbered, List.length_append, List.length_singleton,
          List.range_succ, List.map_append, counting.next]
        rfl
      · simp only [List.length_append, List.length_singleton]
        rw [counting.next, UInt32.ofNat_add]
        rfl
  | cut result first rest cut => exact absurd cut uncut

theorem createPublisher_counting (zmqPub : Bool) : Counting (createPublisher zmqPub) :=
  ⟨rfl, rfl, rfl⟩

/-- A cut message is never whole. -/
theorem uncut_of_whole (publisher : Publisher) (event : BlockHash × Sends)
    (counting : Counting publisher) (after : Whole (publish publisher event)) :
    ¬ Cut publisher event := by
  have move := publish_move publisher event
  generalize publish publisher event = result at move after
  cases move with
  | skipped unsent =>
      rintro ⟨configured, topic, -⟩
      rcases unsent with off | untaken
      · simp [configured] at off
      · simp [topic] at untaken
  | sent configured topic uncut => exact uncut
  | cut result first rest cut frames_eq published_eq =>
      rw [Whole, frames_eq, published_eq, ← counting.whole] at after
      simp at after

/--
The PUB socket carries just the messages of the notifications that were sent
in full, exactly if it never takes a topic without the rest of the message.
-/
theorem whole_iff_uncut (zmqPub : Bool) (events : List (BlockHash × Sends)) :
    Throughout publish Whole (createPublisher zmqPub) events ↔
      Along publish (fun publisher event => ¬ Cut publisher event) (createPublisher zmqPub)
        events :=
  throughout_iff_along publish_counting (fun _ counting => counting.whole) uncut_of_whole
    (createPublisher_counting zmqPub) events

/-! ## Two instances in a chain -/

/-- The socket takes a whole message, or nothing of it. -/
def Sends.Uncut (sends : Sends) : Prop :=
  sends.topic = true → sends.hash = true ∧ sends.seq = true

instance : DecidablePred Sends.Uncut :=
  fun _ => inferInstanceAs (Decidable (_ → _))

theorem Sends.Uncut.not_cut {sends : Sends} (uncut : sends.Uncut) (publisher : Publisher)
    (hash : BlockHash) :
    ¬ Cut publisher (hash, sends) := by
  rintro ⟨-, topic, noHash | noSeq⟩
  · simp [(uncut topic).1] at noHash
  · simp [(uncut topic).2] at noSeq

/-- The hashes of the published notifications, oldest first. -/
def Publisher.hashes (publisher : Publisher) : List BlockHash :=
  publisher.published.map Prod.fst

/-- A bound socket publishes the notifications whose topic it takes. -/
theorem publish_hashes {publisher : Publisher} (configured : publisher.zmqPub = true)
    {event : BlockHash × Sends} (uncut : event.2.Uncut) :
    (publish publisher event).zmqPub = true ∧
      (publish publisher event).hashes =
        publisher.hashes ++ ([event].filter fun event => event.2.topic).map Prod.fst := by
  have move := publish_move publisher event
  generalize publish publisher event = result at move
  cases move with
  | skipped unsent =>
      rcases unsent with off | untaken
      · simp [configured] at off
      · exact ⟨configured, by simp [untaken]⟩
  | sent _ topic =>
      refine ⟨configured, ?_⟩
      simp only [Publisher.hashes, List.map_append]
      simp [topic]
  | cut result first rest cut => exact absurd cut (uncut.not_cut publisher event.1)

theorem run_publish {publisher : Publisher} (configured : publisher.zmqPub = true)
    (counting : Counting publisher) {notifications : List (BlockHash × Sends)}
    (uncut : ∀ notification ∈ notifications, notification.2.Uncut) :
    Counting (run publish publisher notifications) ∧
      (run publish publisher notifications).hashes = publisher.hashes ++
        (notifications.filter fun notification => notification.2.topic).map Prod.fst := by
  induction notifications generalizing publisher with
  | nil => exact ⟨counting, (List.append_nil _).symm⟩
  | cons notification rest induction =>
      have intact := uncut notification List.mem_cons_self
      rcases publish_hashes configured intact with ⟨stillConfigured, grown⟩
      rcases induction stillConfigured
        (publish_counting publisher notification counting
          (intact.not_cut publisher notification.1))
        fun other member => uncut other (List.mem_cons_of_mem _ member) with ⟨after, later⟩
      refine ⟨after, ?_⟩
      rw [run_cons, later, grown, List.append_assoc, ← List.map_append, ← List.filter_append]
      rfl

section Chain

variable {n m : Nat}

/-- The notifier together with its PUB socket. -/
structure Source (n : Nat) where
  notifier : Notifier n
  publisher : Publisher

/-- A call into the notifier, with the answers of the socket if the hash is relayed. -/
def sourceStep (config : Config n) (source : Source n)
    (event : BlockNotify.Event n × Sends) : Source n :=
  let after := BlockNotify.step config source.notifier event.1
  match handed source.notifier after with
  | none => ⟨after, source.publisher⟩
  | some hash => ⟨after, relayZmqPub source.publisher hash event.2⟩

/-- A new notifier, and a PUB socket that is bound. -/
def createSource (now : Nat) : Source n :=
  ⟨BlockNotify.freshNotifier now, createPublisher true⟩

/-- The hashes that were relayed, oldest first. -/
def relayed (source : Source n) : List BlockHash :=
  (BlockNotify.relays source.notifier.trace).reverse

/-- One call: nothing is relayed, or one hash is handed to the socket. -/
theorem sourceStep_cases (config : Config n) (source : Source n)
    (event : BlockNotify.Event n × Sends) :
    (sourceStep config source event).publisher = source.publisher ∧
        relayed (sourceStep config source event) = relayed source ∨
      ∃ hash, (sourceStep config source event).publisher =
          publish source.publisher (hash, event.2) ∧
        relayed (sourceStep config source event) = relayed source ++ [hash] := by
  rcases relays_step config source.notifier event.1 with same | ⟨hash, one⟩
  · have none_ : handed source.notifier
        (BlockNotify.step config source.notifier event.1) = none := by
      simp [handed, same]
    refine Or.inl ?_
    simp only [sourceStep, none_, relayed, same, and_self]
  · have some_ : handed source.notifier
        (BlockNotify.step config source.notifier event.1) = some hash := by
      simp [handed, one]
    refine Or.inr ⟨hash, ?_⟩
    simp only [sourceStep, some_, relayed, one, List.reverse_cons, and_true]
    rfl

/-- The socket sees the relayed hashes, each once and in order. -/
theorem run_sourceStep (config : Config n) (source : Source n)
    (events : List (BlockNotify.Event n × Sends)) :
    ∃ notifications : List (BlockHash × Sends),
      (∀ notification ∈ notifications, notification.2 ∈ events.map Prod.snd) ∧
      (run (sourceStep config) source events).publisher =
        run publish source.publisher notifications ∧
      relayed (run (sourceStep config) source events) =
        relayed source ++ notifications.map Prod.fst := by
  induction events generalizing source with
  | nil => exact ⟨[], by simp, rfl, (List.append_nil _).symm⟩
  | cons event rest induction =>
      rcases induction (sourceStep config source event) with ⟨later, answers, socket, hashes⟩
      have answersLater : ∀ notification ∈ later,
          notification.2 ∈ (event :: rest).map Prod.snd :=
        fun notification member => List.mem_cons_of_mem _ (answers notification member)
      rw [run_cons, socket, hashes]
      rcases sourceStep_cases config source event with ⟨kept, same⟩ | ⟨hash, moved, grown⟩
      · exact ⟨later, answersLater, by rw [kept], by rw [same]⟩
      · refine ⟨(hash, event.2) :: later, ?_, by rw [moved, run_cons], ?_⟩
        · exact List.forall_mem_cons.mpr ⟨List.mem_cons_self, answersLater⟩
        · rw [grown, List.append_assoc]
          rfl

/-- Every message of a publisher announces its hash. -/
theorem filterMap_blockHash (notifications : List (BlockHash × UInt32)) :
    (notifications.map messageOf).filterMap blockHash = notifications.map Prod.fst := by
  induction notifications with
  | nil => rfl
  | cons notification rest induction =>
      have announced : blockHash (messageOf notification) = some notification.1 := by
        simp [blockHash, messageOf, notification.1.2]
      rw [List.map_cons, List.filterMap_cons, announced, induction, List.map_cons]

/-- The drain of a subscriber takes whole messages apart into their hashes. -/
theorem foldl_frames {publisher : Publisher} (whole : Whole publisher) (config : Config m)
    (node : Fin m) (notifier : Notifier m) :
    publisher.frames.foldl (afterFrame config node) (.topic, notifier) =
      (.topic, publisher.hashes.foldl
        (fun notifier hash => notifierProcessHash config notifier hash (config.nodes node).label)
        notifier) := by
  rw [whole, foldl_queued, foldl_afterMessage, filterMap_blockHash]
  rfl

/--
What the drain of a subscriber makes of the frames that a source has sent.  It
stands at the end of a message, and has called `notifier_process_hash` for
those relayed hashes whose topic the socket took, in the order in which they
were relayed.
-/
structure Chained (config : Config m) (node : Fin m) (source : Source n)
    (notifier : Notifier m) (drained : Stage × Notifier m) : Prop where
  boundary : drained.1 = .topic
  calls : processCalls drained.2.trace =
    (source.publisher.hashes.map fun hash => (some (config.nodes node).label, hash)).reverse ++
      processCalls notifier.trace
  published : ∃ notifications : List (BlockHash × Sends),
    relayed source = notifications.map Prod.fst ∧
      source.publisher.hashes =
        (notifications.filter fun notification => notification.2.topic).map Prod.fst
  numbered : source.publisher.published.map Prod.snd =
    (List.range source.publisher.hashes.length).map UInt32.ofNat

/-- Three blocks, of which the socket does not take the second. -/
def oneLost : List (BlockNotify.Event 1 × Sends) :=
  [(BlockNotify.reports "first" 1, ⟨true, true, true⟩),
    (BlockNotify.reports "first" 2, ⟨false, false, false⟩),
    (BlockNotify.reports "first" 3, ⟨true, true, true⟩)]

end Chain

end RpcRace.Publishing
