import RpcRace.BlockNotify

/-!
# ZMQ subscriptions

The SUB sockets of `notifier.c`: the loop of `notifier_create` that opens
them, `zmq_fd_event_cb`, which runs when the event loop reports the
registered descriptor, and `drain_zmq_socket`.

Messages arrive from another thread at any moment, so the callback is a
machine whose steps are single calls of libzmq, and arrivals happen between
them.  Of libzmq only the documented behaviour is used: a multipart message
arrives as a whole, `ZMQ_RCVMORE` tells whether the frame just received was
the last of its message, `ZMQ_POLLIN` is set exactly if a message waits, and
an arrival makes the descriptor of its socket readable.  The registration is
edge-triggered, so `epoll_wait` reports an arrival once.  A `zmq_getsockopt`
on an open socket succeeds.

What `notifier_create` does after this loop, the PUB socket and the relays,
can only make it refuse the configuration and is left out.
-/

namespace RpcRace.ZmqSubscriptions

open RpcRace.Library.CString
open RpcRace.Library.Run
open RpcRace.BlockNotify (BlockHash Config Notifier exampleConfig exampleHash
  freshNotifier hashSize notifierProcessHash)

variable {n : Nat}

/-! ## The subscriptions of `notifier_create` -/

/-- An entry of `zmq_fds` and `node_map`. -/
structure Subscription (n : Nat) where
  node : Fin n
  fd : Nat
deriving DecidableEq

/-- The sockets, and the descriptor that is registered with the event loop. -/
structure Subscriptions (n : Nat) where
  subs : List (Subscription n)
  registered : Option Nat
deriving DecidableEq

/-- What libzmq and the event loop answer. -/
structure Answers (n : Nat) where
  /-- `ZMQ_FD` of a node's socket, unless it cannot be created, subscribed or connected. -/
  descriptor : Fin n → Option Nat
  /-- `event_loop_add_fd` succeeds. -/
  registers : Nat → Bool

/-- One iteration of the loop: only the descriptor of the first socket is registered. -/
def subscribe (config : Config n) (answers : Answers n) (subscriptions : Subscriptions n)
    (node : Fin n) : Option (Subscriptions n) :=
  if (config.nodes node).zmqPort = 0 then some subscriptions
  else
    match answers.descriptor node with
    | none => none
    | some fd =>
        if subscriptions.subs = [] then
          if answers.registers fd then some ⟨[⟨node, fd⟩], some fd⟩ else none
        else some { subscriptions with subs := subscriptions.subs ++ [⟨node, fd⟩] }

/-- The loop of `notifier_create` over the configured nodes; `none` is its `fail` label. -/
def createSubscriptions (config : Config n) (answers : Answers n) : Option (Subscriptions n) :=
  (List.finRange n).foldlM (subscribe config answers) ⟨[], none⟩

/-- The sockets after the loop has passed these nodes. -/
structure Subscribed (config : Config n) (answers : Answers n) (passed : List (Fin n))
    (subscriptions : Subscriptions n) : Prop where
  answered : ∀ sub ∈ subscriptions.subs,
    (config.nodes sub.node).zmqPort ≠ 0 ∧ answers.descriptor sub.node = some sub.fd
  complete : ∀ node ∈ passed, (config.nodes node).zmqPort ≠ 0 →
    ∃ sub ∈ subscriptions.subs, sub.node = node
  first : subscriptions.registered = subscriptions.subs.head?.map Subscription.fd

/-- The two successful ways through an iteration. -/
inductive SubscribeMove (config : Config n) (answers : Answers n)
    (subscriptions : Subscriptions n) (node : Fin n) : Subscriptions n → Prop where
  | skipped (silent : (config.nodes node).zmqPort = 0) :
      SubscribeMove config answers subscriptions node subscriptions
  | added (fd : Nat) (registered : Option Nat) (listens : (config.nodes node).zmqPort ≠ 0)
      (answer : answers.descriptor node = some fd)
      (first : registered =
        if subscriptions.subs = [] then some fd else subscriptions.registered) :
      SubscribeMove config answers subscriptions node
        ⟨subscriptions.subs ++ [⟨node, fd⟩], registered⟩

theorem subscribe_move {config : Config n} {answers : Answers n}
    {subscriptions result : Subscriptions n} {node : Fin n}
    (created : subscribe config answers subscriptions node = some result) :
    SubscribeMove config answers subscriptions node result := by
  unfold subscribe at created
  by_cases silent : (config.nodes node).zmqPort = 0
  · rw [if_pos silent] at created
    cases created
    exact .skipped silent
  · rw [if_neg silent] at created
    cases answer : answers.descriptor node with
    | none => simp [answer] at created
    | some fd =>
        rw [answer] at created
        dsimp only at created
        split_ifs at created with empty
        · cases created
          have added := SubscribeMove.added fd (some fd) silent
            answer (if_pos empty).symm
          rwa [empty] at added
        · cases created
          exact .added fd _ silent answer (if_neg empty).symm

theorem Subscribed.subscribe {config : Config n} {answers : Answers n} {passed : List (Fin n)}
    {subscriptions result : Subscriptions n} {node : Fin n}
    (before : Subscribed config answers passed subscriptions)
    (move : SubscribeMove config answers subscriptions node result) :
    Subscribed config answers (passed ++ [node]) result := by
  cases move with
  | skipped silent =>
      refine ⟨before.answered, ?_, before.first⟩
      intro other member listens
      rcases List.mem_append.mp member with old | new
      · exact before.complete other old listens
      · cases List.mem_singleton.mp new
        exact absurd silent listens
  | added fd registered listens answer first =>
      constructor
      · intro sub member
        rcases List.mem_append.mp member with old | new
        · exact before.answered sub old
        · cases List.mem_singleton.mp new
          exact ⟨listens, answer⟩
      · intro other member listens
        rcases List.mem_append.mp member with old | new
        · rcases before.complete other old listens with ⟨sub, member, same⟩
          exact ⟨sub, List.mem_append_left _ member, same⟩
        · exact ⟨⟨node, fd⟩, by simp, (List.mem_singleton.mp new).symm⟩
      · rw [first]
        split_ifs with empty
        · simp [empty]
        · rw [before.first, List.head?_append_of_ne_nil _ empty]

theorem Subscribed.foldlM {config : Config n} {answers : Answers n} {passed : List (Fin n)}
    {subscriptions result : Subscriptions n} (nodes : List (Fin n))
    (before : Subscribed config answers passed subscriptions)
    (created : nodes.foldlM (ZmqSubscriptions.subscribe config answers) subscriptions =
      some result) :
    Subscribed config answers (passed ++ nodes) result := by
  induction nodes generalizing passed subscriptions with
  | nil =>
      cases created
      simpa using before
  | cons node rest induction =>
      rw [List.foldlM_cons] at created
      rcases Option.bind_eq_some_iff.mp created with ⟨middle, one, rest⟩
      simpa using induction (before.subscribe (subscribe_move one)) rest

theorem createSubscriptions_spec {config : Config n} {answers : Answers n}
    {subscriptions : Subscriptions n}
    (created : createSubscriptions config answers = some subscriptions) :
    Subscribed config answers (List.finRange n) subscriptions := by
  have start : Subscribed config answers [] ⟨[], none⟩ :=
    ⟨by simp, by simp, rfl⟩
  exact start.foldlM (List.finRange n) created

/-- All sockets answer with one descriptor. -/
def SharedFd (config : Config n) (answers : Answers n) : Prop :=
  ∀ node other, (config.nodes node).zmqPort ≠ 0 → (config.nodes other).zmqPort ≠ 0 →
    answers.descriptor node = answers.descriptor other

theorem sharedFd_iff_registered {config : Config n} {answers : Answers n}
    {subscriptions : Subscriptions n}
    (subscribed : Subscribed config answers (List.finRange n) subscriptions) :
    SharedFd config answers ↔
      ∀ sub ∈ subscriptions.subs, subscriptions.registered = some sub.fd := by
  constructor
  · intro shared sub member
    cases subs : subscriptions.subs with
    | nil => simp [subs] at member
    | cons first rest =>
        have listens := subscribed.answered first (by simp [subs])
        have same := shared first.node sub.node listens.1 (subscribed.answered sub member).1
        rw [listens.2, (subscribed.answered sub member).2] at same
        rw [subscribed.first, subs]
        exact same
  · intro one node other listens hears
    rcases subscribed.complete node (List.mem_finRange node) listens with ⟨sub, member, rfl⟩
    rcases subscribed.complete other (List.mem_finRange other) hears with ⟨next, among, rfl⟩
    rw [(subscribed.answered sub member).2, (subscribed.answered next among).2, ← one sub member,
      one next among]

/-! ## `drain_zmq_socket` and `zmq_fd_event_cb` -/

/-- A frame, with what `ZMQ_RCVMORE` says after it. -/
structure Frame where
  content : Memory
  more : Bool
deriving DecidableEq

/-- A multipart message has at least one frame. -/
structure Message where
  first : Memory
  rest : List Memory

/-- The frames of a message: all but the last have more to follow. -/
def framesOf (first : Memory) : List Memory → List Frame
  | [] => [⟨first, false⟩]
  | next :: rest => ⟨first, true⟩ :: framesOf next rest

/-- `ZMQ_TOPIC_HASHBLOCK`. -/
def topicHashblock : Memory :=
  ascii "hashblock"

/-- What the next `zmq_msg_recv` of `drain_zmq_socket` is for. -/
inductive Stage where
  | topic
  | hash
  | discard
deriving DecidableEq

/-- The `while (more)` loop at the end of a message. -/
def discardWhile (more : Bool) : Stage :=
  if more then .discard else .topic

/-- What `drain_zmq_socket` does with a received frame, for a socket of this node. -/
def drainFrame (config : Config n) (node : Fin n) (notifier : Notifier n) (frame : Frame) :
    Stage → Stage × Notifier n
  | .topic =>
      if frame.content = topicHashblock then
        (if frame.more then .hash else .topic, notifier)
      else (discardWhile frame.more, notifier)
  | .hash =>
      if size : frame.content.length = hashSize then
        (discardWhile frame.more,
          notifierProcessHash config notifier ⟨frame.content, size⟩ (config.nodes node).label)
      else (discardWhile frame.more, notifier)
  | .discard => (discardWhile frame.more, notifier)

/-- Where the event loop is. -/
inductive Phase (count : Nat) where
  /-- In `epoll_wait`. -/
  | blocked
  /-- In the loop of `zmq_fd_event_cb`, about to ask for `ZMQ_EVENTS` of a socket. -/
  | checking (index : Nat) (activity : Bool)
  /-- In `drain_zmq_socket`. -/
  | draining (index : Fin count) (stage : Stage)
deriving DecidableEq

/-- The sockets and their descriptors, the event loop and the notifier. -/
structure State (n count : Nat) where
  phase : Phase count
  queue : Fin count → List Frame
  /-- Descriptors with an edge that `epoll_wait` has not reported. -/
  readable : Nat → Bool
  notifier : Notifier n

/-- The event loop enters `epoll_wait` for the first time. -/
def freshState (n count now : Nat) : State n count where
  phase := .blocked
  queue _ := []
  readable _ := false
  notifier := freshNotifier now

/-- What happens next. -/
inductive Action (count : Nat) where
  /-- libzmq queues a message. -/
  | arrive (index : Fin count) (message : Message)
  /-- `epoll_wait` returns, if the registered descriptor is ready. -/
  | wake
  /-- The callback gets past its next libzmq call. -/
  | proceed

section Machine

variable (config : Config n) (subscriptions : Subscriptions n)

/-- `epoll_wait` has a ready descriptor to report. -/
def isReady (readable : Nat → Bool) : Bool :=
  subscriptions.registered.any readable

/-- `epoll_wait` reports the registered descriptor and takes its edge. -/
def wake (state : State n subscriptions.subs.length) : State n subscriptions.subs.length :=
  if state.phase = .blocked ∧ isReady subscriptions state.readable = true then
    { state with
      phase := .checking 0 false
      readable := fun fd => state.readable fd && subscriptions.registered ≠ some fd }
  else state

/-- One libzmq call of `zmq_fd_event_cb` and the code up to the next one. -/
def proceed (state : State n subscriptions.subs.length) : State n subscriptions.subs.length :=
  match state.phase with
  | .blocked => state
  | .checking index activity =>
      if inside : index < subscriptions.subs.length then
        if state.queue ⟨index, inside⟩ = [] then
          { state with phase := .checking (index + 1) activity }
        else { state with phase := .draining ⟨index, inside⟩ .topic }
      else if activity then { state with phase := .checking 0 false }
      else { state with phase := .blocked }
  | .draining index stage =>
      match state.queue index with
      | [] =>
          -- A failed receive ends the drain, but the discarding loop ignores it.
          if stage = .discard then state else { state with phase := .checking (index + 1) true }
      | frame :: rest =>
          let drained :=
            drainFrame config (subscriptions.subs.get index).node state.notifier frame stage
          { state with
            phase := .draining index drained.1
            queue := Function.update state.queue index rest
            notifier := drained.2 }

/-- A message is queued as a whole and its socket's descriptor becomes readable. -/
def arrive (state : State n subscriptions.subs.length) (index : Fin subscriptions.subs.length)
    (message : Message) : State n subscriptions.subs.length :=
  { state with
    queue := Function.update state.queue index
      (state.queue index ++ framesOf message.first message.rest)
    readable := Function.update state.readable (subscriptions.subs.get index).fd true }

/-- One step of the event loop or of libzmq. -/
def step (state : State n subscriptions.subs.length) :
    Action subscriptions.subs.length → State n subscriptions.subs.length
  | .arrive index message => arrive subscriptions state index message
  | .wake => wake subscriptions state
  | .proceed => proceed config subscriptions state

/-- While the event loop sleeps with nothing to wake it, no socket holds a message. -/
def NoneAsleep (state : State n subscriptions.subs.length) : Prop :=
  state.phase = .blocked → isReady subscriptions state.readable = false →
    ∀ index, state.queue index = []

instance (state : State n subscriptions.subs.length) :
    Decidable (NoneAsleep subscriptions state) :=
  inferInstanceAs (Decidable (_ → _))

end Machine

/-! ## The notifier under the sockets -/

theorem drainFrame_notifier (config : Config n) (node : Fin n) (notifier : Notifier n)
    (frame : Frame) (stage : Stage) :
    (drainFrame config node notifier frame stage).2 = notifier ∨
      ∃ hash, (drainFrame config node notifier frame stage).2 =
        BlockNotify.step config notifier (.report (config.nodes node).label hash) := by
  cases stage with
  | topic =>
      left
      rw [drainFrame]
      split_ifs <;> rfl
  | hash =>
      rw [drainFrame]
      split_ifs with size
      · exact Or.inr ⟨⟨frame.content, size⟩, rfl⟩
      · exact Or.inl rfl
  | discard => exact Or.inl rfl

/-- A step of the sockets is at most one report to the notifier. -/
theorem step_notifier (config : Config n) (subscriptions : Subscriptions n)
    (state : State n subscriptions.subs.length) (action : Action subscriptions.subs.length) :
    (step config subscriptions state action).notifier = state.notifier ∨
      ∃ event, (step config subscriptions state action).notifier =
        BlockNotify.step config state.notifier event := by
  cases action with
  | arrive index message => exact Or.inl rfl
  | wake =>
      left
      change (wake subscriptions state).notifier = state.notifier
      unfold wake
      split_ifs <;> rfl
  | proceed =>
      change (proceed config subscriptions state).notifier = state.notifier ∨
        ∃ event, (proceed config subscriptions state).notifier = _
      unfold proceed
      split
      · exact Or.inl rfl
      · left
        split_ifs <;> rfl
      · split
        · left
          split_ifs <;> rfl
        · rename_i index stage _ _ frame rest _
          rcases drainFrame_notifier config (subscriptions.subs.get index).node
            state.notifier frame stage with same | ⟨hash, reported⟩
          · exact Or.inl same
          · exact Or.inr ⟨_, reported⟩

/-- To the notifier, a run of the sockets is a run of reports. -/
theorem run_notifier (config : Config n) (subscriptions : Subscriptions n)
    (state : State n subscriptions.subs.length)
    (actions : List (Action subscriptions.subs.length)) :
    ∃ events, (run (step config subscriptions) state actions).notifier =
      run (BlockNotify.step config) state.notifier events :=
  run_simulates State.notifier (step_notifier config subscriptions) state actions

/-! ## No message is left asleep -/

/-- The callback has yet to come to a socket. -/
def Phase.willCheck {count : Nat} (index : Fin count) : Phase count → Prop
  | .blocked => False
  | .checking next activity => next ≤ index ∨ activity = true
  | .draining _ _ => True

/-- A socket with a message either has its edge pending or is still to be checked. -/
def Covered (subscriptions : Subscriptions n) (state : State n subscriptions.subs.length) : Prop :=
  ∀ index, state.queue index ≠ [] →
    isReady subscriptions state.readable = true ∨ state.phase.willCheck index

theorem Covered.noneAsleep {subscriptions : Subscriptions n}
    {state : State n subscriptions.subs.length} (covered : Covered subscriptions state) :
    NoneAsleep subscriptions state := by
  intro blocked idle index
  by_contra waiting
  rcases covered index waiting with ready | checked
  · simp [idle] at ready
  · rw [blocked] at checked
    exact checked

theorem Covered.wake {subscriptions : Subscriptions n}
    {state : State n subscriptions.subs.length} (covered : Covered subscriptions state) :
    Covered subscriptions (wake subscriptions state) := by
  unfold ZmqSubscriptions.wake
  split_ifs with woken
  · intro index _
    exact Or.inr (Or.inl (Nat.zero_le _))
  · exact covered

theorem Covered.proceed {config : Config n} {subscriptions : Subscriptions n}
    {state : State n subscriptions.subs.length} (covered : Covered subscriptions state) :
    Covered subscriptions (proceed config subscriptions state) := by
  intro index
  unfold ZmqSubscriptions.proceed
  split
  · exact covered index
  · rename_i next activity phase
    split_ifs with inside empty active
    · -- The socket just checked is empty, so it is not the one that waits.
      intro waiting
      refine (covered index waiting).imp_right fun checked => ?_
      rw [phase] at checked
      refine checked.imp_left fun reached => Nat.lt_of_le_of_ne reached ?_
      rintro rfl
      exact waiting empty
    · exact fun _ => Or.inr trivial
    · exact fun _ => Or.inr (Or.inl (Nat.zero_le _))
    · intro waiting
      refine (covered index waiting).imp_right fun checked => ?_
      rw [phase] at checked
      rcases checked with reached | busy
      · exact inside (Nat.lt_of_le_of_lt reached index.isLt)
      · exact active busy
  · split
    · split_ifs
      · exact covered index
      · exact fun _ => Or.inr (Or.inr rfl)
    · exact fun _ => Or.inr trivial

theorem Covered.arrive {subscriptions : Subscriptions n}
    {state : State n subscriptions.subs.length} {index : Fin subscriptions.subs.length}
    (message : Message)
    (registered : subscriptions.registered = some (subscriptions.subs.get index).fd) :
    Covered subscriptions (arrive subscriptions state index message) := by
  intro other _
  left
  simp [isReady, ZmqSubscriptions.arrive, registered]

/-- An arrival on a socket whose descriptor is not registered is not noticed. -/
theorem not_noneAsleep_arrive {subscriptions : Subscriptions n} (now : Nat)
    (index : Fin subscriptions.subs.length) (message : Message)
    (unregistered : subscriptions.registered ≠ some (subscriptions.subs.get index).fd) :
    ¬ NoneAsleep subscriptions
      (arrive subscriptions (freshState n subscriptions.subs.length now) index message) := by
  intro noneAsleep
  have idle : isReady subscriptions
      (arrive subscriptions (freshState n subscriptions.subs.length now) index message).readable =
        false := by
    unfold isReady
    cases registered : subscriptions.registered with
    | none => rfl
    | some fd =>
        have other : fd ≠ (subscriptions.subs.get index).fd :=
          fun same => unregistered (registered.trans (congrArg some same))
        exact Function.update_of_ne other _ _
  have empty := noneAsleep rfl idle index
  cases rest : message.rest <;> simp [arrive, freshState, framesOf, rest] at empty

/--
No message is left asleep, in any order of arrivals and wake-ups, exactly if
all sockets have one descriptor.
-/
theorem noneAsleep_iff_sharedFd (config : Config n) (answers : Answers n)
    (subscriptions : Subscriptions n)
    (created : createSubscriptions config answers = some subscriptions) (now : Nat) :
    (∀ actions, Throughout (step config subscriptions) (NoneAsleep subscriptions)
      (freshState n subscriptions.subs.length now) actions) ↔ SharedFd config answers := by
  rw [sharedFd_iff_registered (createSubscriptions_spec created)]
  constructor
  · intro always sub member
    rcases List.get_of_mem member with ⟨index, rfl⟩
    by_contra unregistered
    exact not_noneAsleep_arrive now index ⟨topicHashblock, []⟩ unregistered
      (always [.arrive index ⟨topicHashblock, []⟩]).2
  · intro registered actions
    have keep : ∀ state action, Covered subscriptions state →
        Covered subscriptions (step config subscriptions state action) := by
      intro state action covered
      cases action with
      | arrive index message =>
          exact Covered.arrive message (registered _ (List.get_mem _ index))
      | wake => exact covered.wake
      | proceed => exact covered.proceed
    have start : Covered subscriptions (freshState n subscriptions.subs.length now) :=
      fun _ waiting => absurd rfl waiting
    exact (throughout_of_step keep start actions).mono fun _ covered => covered.noneAsleep

/-- One node, and its socket. -/
def oneSocket (fd : Nat) : Subscriptions 1 :=
  ⟨(List.finRange 1).map fun node => ⟨node, fd⟩, some fd⟩

theorem noneAsleep_iff_sharedFd_oneSocket :
    createSubscriptions (exampleConfig !["only"]) ⟨fun _ => some 10, fun _ => true⟩ =
        some (oneSocket 10) ∧
      ∀ actions, Throughout (step (exampleConfig !["only"]) (oneSocket 10))
        (NoneAsleep (oneSocket 10)) (freshState 1 1 0) actions := by
  have created : createSubscriptions (exampleConfig !["only"])
      ⟨fun _ => some 10, fun _ => true⟩ = some (oneSocket 10) := by
    decide +kernel
  exact ⟨created, (noneAsleep_iff_sharedFd _ _ _ created 0).mpr fun _ _ _ _ => rfl⟩

/-- Sockets of two nodes, with these descriptors. -/
def twoSockets (first second : Nat) : Subscriptions 2 :=
  ⟨(List.finRange 2).map fun node => ⟨node, ![first, second] node⟩, some first⟩

/-- A block of the second node. -/
def secondBlock (first second : Nat) : Action (twoSockets first second).subs.length :=
  .arrive (Fin.last 1) ⟨topicHashblock, [exampleHash 1, [0, 0, 0, 0]]⟩

/-- With a descriptor for each socket, a block of the second node wakes nobody. -/
theorem ownDescriptors_not_noneAsleep :
    createSubscriptions (exampleConfig !["first", "second"])
        ⟨![some 10, some 11], fun _ => true⟩ = some (twoSockets 10 11) ∧
      ¬ Throughout (step (exampleConfig !["first", "second"]) (twoSockets 10 11))
        (NoneAsleep (twoSockets 10 11)) (freshState 2 2 0) [secondBlock 10 11] := by
  have facts : createSubscriptions (exampleConfig !["first", "second"])
        ⟨![some 10, some 11], fun _ => true⟩ = some (twoSockets 10 11) ∧
      ¬ NoneAsleep (twoSockets 10 11)
        (run (step (exampleConfig !["first", "second"]) (twoSockets 10 11)) (freshState 2 2 0)
          [secondBlock 10 11]) := by
    decide +kernel
  exact ⟨facts.1, fun everywhere => facts.2 (throughout_end everywhere)⟩

end RpcRace.ZmqSubscriptions
