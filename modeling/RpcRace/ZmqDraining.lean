import RpcRace.ZmqSubscriptions

/-!
# Message boundaries

`drain_zmq_socket` receives single frames, and tells from `ZMQ_RCVMORE` where
a message ends.  Three loops skip what is left of a message that is of no
further use, and a message that ends too early is left at once.

Whatever the queued messages are, the drain takes all of their frames and
returns, and it reports the block hashes of the well-formed ones, in order
(`drains_queued`).
-/

namespace RpcRace.ZmqDraining

open RpcRace.Library.CString
open RpcRace.Library.Run
open RpcRace.BlockNotify (BlockHash Config Notifier hashSize notifierProcessHash processCalls
  processCalls_notifierProcessHash)
open RpcRace.ZmqSubscriptions

variable {n : Nat}

/-- A queue that holds these messages. -/
def queued (messages : List Message) : List Frame :=
  messages.flatMap fun message => framesOf message.first message.rest

/-- The hash that a message announces: its second frame, under the topic `hashblock`. -/
def blockHash (message : Message) : Option BlockHash :=
  match message.rest with
  | [] => none
  | second :: _ =>
      if size : second.length = hashSize then
        if message.first = topicHashblock then some ⟨second, size⟩ else none
      else none

/-! ## Frames -/

section Frames

variable (config : Config n) (node : Fin n)

/-- Where a drain of the node's socket is after one more frame. -/
def afterFrame (drained : Stage × Notifier n) (frame : Frame) : Stage × Notifier n :=
  drainFrame config node drained.2 frame drained.1

/-- The notifier after a message of the node. -/
def afterMessage (notifier : Notifier n) (message : Message) : Notifier n :=
  match blockHash message with
  | none => notifier
  | some hash => notifierProcessHash config notifier hash (config.nodes node).label

/-- What is left of a message is skipped up to its end. -/
theorem foldl_framesOf_discard (notifier : Notifier n) (first : Memory) (rest : List Memory) :
    (framesOf first rest).foldl (afterFrame config node) (.discard, notifier) =
      (.topic, notifier) := by
  induction rest generalizing first with
  | nil => rfl
  | cons next rest induction => exact induction next

theorem foldl_framesOf_hash (notifier : Notifier n) (first : Memory) (rest : List Memory) :
    (framesOf first rest).foldl (afterFrame config node) (.hash, notifier) =
      (.topic, afterMessage config node notifier ⟨topicHashblock, first :: rest⟩) := by
  have reported : ∀ more, afterFrame config node (.hash, notifier) ⟨first, more⟩ =
      (discardWhile more, afterMessage config node notifier ⟨topicHashblock, first :: rest⟩) := by
    intro more
    unfold afterFrame drainFrame afterMessage blockHash
    by_cases size : first.length = hashSize
    · simp [size]
    · simp [size]
  cases rest with
  | nil => exact reported false
  | cons next rest =>
      rw [framesOf, List.foldl_cons, reported true]
      exact foldl_framesOf_discard config node _ next rest

/-- The frames of a message lead from its topic to the topic of the next one. -/
theorem foldl_framesOf (notifier : Notifier n) (message : Message) :
    (framesOf message.first message.rest).foldl (afterFrame config node) (.topic, notifier) =
      (.topic, afterMessage config node notifier message) := by
  rcases message with ⟨first, rest⟩
  by_cases topic : first = topicHashblock
  · subst topic
    cases rest with
    | nil => simp [framesOf, afterFrame, drainFrame, afterMessage, blockHash]
    | cons next rest =>
        have entered : afterFrame config node (.topic, notifier) ⟨topicHashblock, true⟩ =
            (.hash, notifier) := by
          simp [afterFrame, drainFrame]
        rw [framesOf, List.foldl_cons, entered]
        exact foldl_framesOf_hash config node notifier next rest
  · have ignored : afterMessage config node notifier ⟨first, rest⟩ = notifier := by
      unfold afterMessage blockHash
      cases rest with
      | nil => rfl
      | cons second rest => simp [topic]
    have skipped : ∀ more, afterFrame config node (.topic, notifier) ⟨first, more⟩ =
        (discardWhile more, notifier) := by
      intro more
      simp [afterFrame, drainFrame, topic]
    rw [ignored]
    cases rest with
    | nil => exact skipped false
    | cons next rest =>
        rw [framesOf, List.foldl_cons, skipped true]
        exact foldl_framesOf_discard config node notifier next rest

/-- No boundary is lost between messages. -/
theorem foldl_queued (notifier : Notifier n) (messages : List Message) :
    (queued messages).foldl (afterFrame config node) (.topic, notifier) =
      (.topic, messages.foldl (afterMessage config node) notifier) := by
  induction messages generalizing notifier with
  | nil => rfl
  | cons message rest induction =>
      rw [queued, List.flatMap_cons, List.foldl_append, foldl_framesOf]
      exact induction _

/-- Only the messages that announce a hash count. -/
theorem foldl_afterMessage (notifier : Notifier n) (messages : List Message) :
    messages.foldl (afterMessage config node) notifier =
      (messages.filterMap blockHash).foldl
        (fun notifier hash => notifierProcessHash config notifier hash (config.nodes node).label)
        notifier := by
  induction messages generalizing notifier with
  | nil => rfl
  | cons message rest induction =>
      rw [List.foldl_cons, induction, List.filterMap_cons, afterMessage]
      cases blockHash message <;> rfl

theorem processCalls_foldl (notifier : Notifier n) (hashes : List BlockHash)
    (label : Option Memory) :
    processCalls (hashes.foldl
        (fun notifier hash => notifierProcessHash config notifier hash label) notifier).trace =
      (hashes.map fun hash => (label, hash)).reverse ++ processCalls notifier.trace := by
  induction hashes generalizing notifier with
  | nil => rfl
  | cons hash rest induction =>
      rw [List.foldl_cons, induction, processCalls_notifierProcessHash]
      simp

end Frames

/-! ## The drain -/

section Drain

variable (config : Config n) (subscriptions : Subscriptions n)

/-- `drain_zmq_socket` takes a frame in each step while there is one. -/
theorem run_proceed {state : State n subscriptions.subs.length}
    {index : Fin subscriptions.subs.length} (frames : List Frame) (stage : Stage)
    (phase : state.phase = .draining index stage) (queue : state.queue index = frames) :
    run (step config subscriptions) state (List.replicate frames.length .proceed) =
      { state with
        phase := .draining index (frames.foldl
          (afterFrame config (subscriptions.subs.get index).node) (stage, state.notifier)).1
        queue := Function.update state.queue index []
        notifier := (frames.foldl
          (afterFrame config (subscriptions.subs.get index).node) (stage, state.notifier)).2 } := by
  induction frames generalizing state stage with
  | nil =>
      have same : Function.update state.queue index [] = state.queue := by
        rw [← queue, Function.update_eq_self]
      simp only [List.length_nil, List.replicate_zero, run_nil, List.foldl_nil, same, ← phase]
  | cons frame rest induction =>
      have taken : step config subscriptions state .proceed =
          { state with
            phase := .draining index (afterFrame config (subscriptions.subs.get index).node
              (stage, state.notifier) frame).1
            queue := Function.update state.queue index rest
            notifier := (afterFrame config (subscriptions.subs.get index).node
              (stage, state.notifier) frame).2 } := by
        simp only [step, proceed, phase, queue]
        rfl
      rw [List.length_cons, List.replicate_succ, run_cons, taken,
        induction _ rfl (Function.update_self ..)]
      simp only [Function.update_idem, List.foldl_cons]

/-- `drain_zmq_socket` is called for a socket that holds these messages. -/
def entered (state : State n subscriptions.subs.length) (index : Fin subscriptions.subs.length)
    (messages : List Message) : State n subscriptions.subs.length :=
  { state with
    phase := .draining index .topic
    queue := Function.update state.queue index (queued messages) }

/-- What a drain of these messages amounts to. -/
structure Drained (before : State n subscriptions.subs.length)
    (index : Fin subscriptions.subs.length) (messages : List Message)
    (after : State n subscriptions.subs.length) : Prop where
  returned : after.phase = .checking (index + 1) true
  consumed : after.queue = Function.update before.queue index []
  processed : after.notifier = (messages.filterMap blockHash).foldl
    (fun notifier hash => notifierProcessHash config notifier hash
      (config.nodes (subscriptions.subs.get index).node).label) before.notifier
  calls : processCalls after.notifier.trace =
    ((messages.filterMap blockHash).map fun hash =>
      (some (config.nodes (subscriptions.subs.get index).node).label, hash)).reverse ++
        processCalls before.notifier.trace

/--
A drain receives every frame of the queued messages once, and then finds the
queue empty.  It has called `notifier_process_hash` for the hash of each
message that announces one, in order, and for nothing else.
-/
theorem drains_queued (state : State n subscriptions.subs.length)
    (index : Fin subscriptions.subs.length) (messages : List Message) :
    Drained config subscriptions state index messages
      (run (step config subscriptions) (entered subscriptions state index messages)
        (List.replicate ((queued messages).length + 1) .proceed)) := by
  have queue : (entered subscriptions state index messages).queue index = queued messages :=
    Function.update_self ..
  have received := run_proceed config subscriptions (queued messages) .topic rfl queue
  rw [foldl_queued, foldl_afterMessage] at received
  rw [List.replicate_succ', run_append, received]
  have ended : Drained config subscriptions state index messages
      { entered subscriptions state index messages with
        phase := .checking (index + 1) true
        queue := Function.update (entered subscriptions state index messages).queue index []
        notifier := (messages.filterMap blockHash).foldl
          (fun notifier hash => notifierProcessHash config notifier hash
            (config.nodes (subscriptions.subs.get index).node).label) state.notifier } := by
    refine ⟨rfl, ?_, rfl, processCalls_foldl config state.notifier _ _⟩
    exact Function.update_idem _ _ _
  convert ended using 1
  simp only [run_cons, run_nil, step, proceed, Function.update_self]
  rfl

end Drain

end RpcRace.ZmqDraining
