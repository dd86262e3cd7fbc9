import RpcRace.ConnectionPair
import RpcRace.Registration

/-!
# Who owns a descriptor

The connections open and close descriptors in many places, also in the error
branches of `rpc_conn_connect`.  `run_accounted` says that none is lost on the
way: after every sequence of operations each open descriptor belongs to one
slot or to another module, and to one only.

`rpc_proxy_destroy` gives up every slot.  From then on the event loop holds no
callback of a connection, so that no event can reach one that was freed
(`released_of_teardown`).
-/

namespace RpcRace.Descriptors

open RpcRace.Library.CString
open RpcRace.Library.Run
open RpcRace.RpcConn
open RpcRace.ConnectionPair
open RpcRace.EventLoop
open RpcRace.Registration

variable {Slot : Type}

/-! ## Ownership -/

/-- Every open descriptor has exactly one owner. -/
structure Accounted (system : System Slot) : Prop where
  opened_iff : ∀ fd, fd ∈ system.loop.opened ↔
    fd ∈ system.others ∨ ∃ slot, (system.conns slot).fd = some fd
  foreign : ∀ fd ∈ system.others, ∀ slot, (system.conns slot).fd ≠ some fd
  apart : ∀ slot other fd, (system.conns slot).fd = some fd →
    (system.conns other).fd = some fd → slot = other

/-- No open descriptor is lost. -/
def Owned (system : System Slot) : Prop :=
  ∀ fd ∈ system.loop.opened, fd ∈ system.others ∨ ∃ slot, (system.conns slot).fd = some fd

theorem accounted_of_owned {system : System Slot} (consistent : Consistent system)
    (owned : Owned system) :
    Accounted system := by
  refine ⟨fun fd => ⟨owned fd, ?_⟩, fun fd member => (consistent.foreign fd member).2, ?_⟩
  · rintro (other | ⟨slot, held⟩)
    · exact (consistent.foreign fd other).1
    · exact (consistent.attached slot fd held).opened
  · intro slot other fd held shared
    by_contra different
    exact consistent.apart (Ne.symm different) shared held

/-- The registrations agree, and no descriptor is lost. -/
def Sound (system : System Slot) : Prop :=
  Consistent system ∧ Owned system

theorem create_sound (recvBuf : Slot → Memory) (callback : Slot → ConnectedCallback) :
    Sound (System.create recvBuf callback) :=
  ⟨create_consistent recvBuf callback, fun _ opened => Or.inl opened⟩

/-! ## Calls -/

section Calls

variable {loop : Loop (Callback Slot)} {conn after : UpstreamConn}

@[simp]
theorem eventLoopModFd_opened (loop : Loop (Callback Slot)) (fd : Nat) (events : UInt32) :
    (eventLoopModFd loop fd events).opened = loop.opened := by
  unfold eventLoopModFd
  split_ifs <;> rfl

@[simp]
theorem eventLoopDelFd_opened (loop : Loop (Callback Slot)) (fd : Nat) :
    (eventLoopDelFd loop fd).opened = loop.opened := by
  unfold eventLoopDelFd
  split <;> rfl

@[simp]
theorem eventLoopAddFd_opened (loop : Loop (Callback Slot)) (fd : Nat) (events : UInt32)
    (cb : Callback Slot) (accepted : Bool) :
    (eventLoopAddFd loop fd events cb accepted).opened = loop.opened := by
  unfold eventLoopAddFd
  split_ifs <;> rfl

theorem modFdCalls_opened (loop : Loop (Callback Slot)) (conn : UpstreamConn) (events : UInt32) :
    (run act loop (modFdCalls conn events)).opened = loop.opened := by
  unfold modFdCalls
  cases conn.fd with
  | none => rfl
  | some fd => exact eventLoopModFd_opened loop fd events

theorem mem_opened_dropFdCalls {fd : Nat} :
    fd ∈ (run act loop (dropFdCalls conn)).opened ↔ fd ∈ loop.opened ∧ conn.fd ≠ some fd := by
  unfold dropFdCalls
  cases conn.fd with
  | none => simp
  | some held =>
      change fd ∈ (eventLoopDelFd loop held).opened.filter (· ≠ held) ↔ _
      rw [eventLoopDelFd_opened, List.mem_filter, decide_eq_true_eq]
      refine and_congr_right fun _ => ?_
      rw [ne_eq, ne_eq, Option.some.injEq, eq_comm]

/-- The calls of a connection open nothing, and close what it gives up. -/
theorem opened_of_change {calls : List (Action (Callback Slot))} (change : Change conn after calls)
    {fd : Nat} (opened : fd ∈ (run act loop calls).opened) :
    fd ∈ loop.opened ∧ (conn.fd = some fd → after.fd = some fd) := by
  cases change with
  | kept fd_eq interest_eq => exact ⟨opened, fun held => fd_eq.trans held⟩
  | modified interest fd_eq interest_eq =>
      rw [modFdCalls_opened] at opened
      exact ⟨opened, fun held => fd_eq.trans held⟩
  | dropped closed =>
      rw [mem_opened_dropFdCalls] at opened
      exact ⟨opened.1, fun held => absurd held opened.2⟩

/-- A connection without a descriptor gets none by its calls. -/
theorem down_of_change {calls : List (Action (Callback Slot))} (change : Change conn after calls)
    (down : conn.fd = none) :
    after.fd = none := by
  cases change with
  | kept fd_eq interest_eq => exact fd_eq.trans down
  | modified interest fd_eq interest_eq => exact fd_eq.trans down
  | dropped closed => exact closed

end Calls

/-! ## Operations -/

section Operations

variable [DecidableEq Slot]

theorem Owned.put {system : System Slot} (owned : Owned system) {slot : Slot}
    {conn : UpstreamConn} {calls : List (Action (Callback Slot))}
    (change : Change (system.conns slot) conn calls) :
    Owned (system.put slot conn calls) := by
  intro fd opened
  rcases opened_of_change change opened with ⟨before, kept⟩
  rcases owned fd before with other | ⟨holder, held⟩
  · exact Or.inl other
  · right
    by_cases same : holder = slot
    · subst same
      exact ⟨holder, by simpa [System.put] using kept held⟩
    · exact ⟨holder, by simpa [System.put, same] using held⟩

/-- A descriptor that was just opened goes to the slot, or is closed again. -/
theorem Owned.register {system : System Slot} (owned : Owned system) {slot : Slot}
    (down : (system.conns slot).fd = none) {conn : UpstreamConn} {fd : Nat}
    (held : conn.fd = some fd) (events : UInt32) (accepted : Bool) :
    Owned ({ system with
      loop := { system.loop with opened := fd :: system.loop.opened } }.register slot conn fd
        events accepted) := by
  have elsewhere : ∀ holder other, (system.conns holder).fd = some other → holder ≠ slot := by
    rintro holder other held rfl
    rw [down] at held
    cases held
  unfold System.register
  dsimp only
  split_ifs
  · intro other opened
    dsimp only at opened ⊢
    rw [eventLoopAddFd_opened, List.mem_cons] at opened
    rcases opened with rfl | before
    · exact Or.inr ⟨slot, by rw [Function.update_self]; exact held⟩
    · rcases owned other before with foreign | ⟨holder, kept⟩
      · exact Or.inl foreign
      · exact Or.inr ⟨holder, by rw [Function.update_of_ne (elsewhere _ _ kept)]; exact kept⟩
  · intro other opened
    dsimp only [act] at opened ⊢
    rw [eventLoopAddFd_opened, List.mem_filter, List.mem_cons, decide_eq_true_eq] at opened
    rcases owned other (opened.1.resolve_left opened.2) with foreign | ⟨holder, kept⟩
    · exact Or.inl foreign
    · exact Or.inr ⟨holder, by rw [Function.update_of_ne (elsewhere _ _ kept)]; exact kept⟩

theorem Owned.connect {system : System Slot} (owned : Owned system)
    (consistent : Consistent system) (slot : Slot) (attempt : Attempt) :
    Owned (system.connect slot attempt) := by
  unfold System.connect
  dsimp only
  split_ifs with unable
  · exact owned
  · push Not at unable
    have down : (system.conns slot).fd = none :=
      (consistent.shaped slot).disconnected_iff.mp unable.1
    cases attempt.result with
    | failed =>
        intro fd opened
        dsimp only [act] at opened ⊢
        rw [List.mem_filter, List.mem_cons, decide_eq_true_eq] at opened
        exact owned fd (opened.1.resolve_left opened.2)
    | immediate =>
        exact owned.register down (by simp [rpcConnConnect, unable.1]) epollIn attempt.accepted
    | inProgress =>
        exact owned.register down (by simp [rpcConnConnect, unable.1]) epollOut attempt.accepted

theorem perform_owned (system : System Slot) (operation : Operation Slot)
    (consistent : Consistent system) (owned : Owned system) :
    Owned (perform system operation) := by
  cases operation with
  | connect slot attempt => exact owned.connect consistent slot attempt
  | send slot len => exact owned.put (rpcConnSend_change _ len)
  | reset slot => exact owned.put (rpcConnReset_change _)
  | disconnect slot => exact owned.put (.dropped rfl)
  | epoll fd shared event =>
      simp only [perform]
      split
      · exact owned.put (connEpollCb_change shared _ event)
      · exact owned
  | otherOpens =>
      intro fd opened
      rcases List.mem_cons.mp opened with rfl | before
      · exact Or.inl List.mem_cons_self
      · exact (owned fd before).imp_left (List.mem_cons_of_mem _)
  | otherTimer ms created =>
      simp only [perform]
      by_cases failed : ms = 0 ∨ created = false
      · simp only [act, eventLoopAddTimer, if_pos failed]
        exact owned
      · simp only [act, eventLoopAddTimer, if_neg failed]
        intro fd opened
        rcases List.mem_cons.mp opened with rfl | before
        · exact Or.inl List.mem_cons_self
        · exact (owned fd before).imp_left (List.mem_cons_of_mem _)
  | otherUses index use =>
      simp only [perform]
      cases found : system.others[index]? with
      | none => exact owned
      | some own =>
          cases use with
          | close =>
              intro fd opened
              dsimp only [act, Use.call] at opened ⊢
              rw [List.mem_filter, decide_eq_true_eq] at opened
              refine (owned fd opened.1).imp_left fun member => ?_
              rw [if_pos rfl, List.mem_filter, decide_eq_true_eq]
              exact ⟨member, opened.2⟩
          | add events accepted =>
              intro fd opened
              exact owned fd (by simpa [act, Use.call] using opened)
          | mod events =>
              intro fd opened
              exact owned fd (by simpa [act, Use.call] using opened)
          | del =>
              intro fd opened
              exact owned fd (by simpa [act, Use.call] using opened)

theorem perform_sound (system : System Slot) (operation : Operation Slot)
    (sound : Sound system) :
    Sound (perform system operation) :=
  ⟨perform_consistent system operation sound.1, perform_owned system operation sound.1 sound.2⟩

/--
After every sequence of operations and epoll events, on any number of slots
that share the event loop with other modules, each open descriptor has one
owner: no branch loses one, and no two share one.
-/
theorem run_accounted (recvBuf : Slot → Memory) (callback : Slot → ConnectedCallback)
    (operations : List (Operation Slot)) :
    Accounted (run perform (System.create recvBuf callback) operations) := by
  have sound := run_invariant perform_sound (create_sound recvBuf callback) operations
  exact accounted_of_owned sound.1 sound.2

/-! ## Teardown -/

/-- The slots are given up: nothing of them is open, and no callback is theirs. -/
structure Released (system : System Slot) : Prop where
  down : ∀ slot, (system.conns slot).fd = none
  opened_iff : ∀ fd, fd ∈ system.loop.opened ↔ fd ∈ system.others
  unregistered : ∀ fd, ∀ entry ∈ system.loop.fdMap fd, ∀ slot,
    entry.cb ≠ .handler (.connEpollCb slot)

def isConnect : Operation Slot → Bool
  | .connect _ _ => true
  | _ => false

/-- Only `rpc_conn_connect` gives a slot a descriptor. -/
theorem perform_down {system : System Slot} {slot : Slot} (down : (system.conns slot).fd = none)
    {operation : Operation Slot} (other : isConnect operation = false) :
    ((perform system operation).conns slot).fd = none := by
  have put : ∀ {moved conn} {calls : List (Action (Callback Slot))},
      Change (system.conns moved) conn calls →
        ((system.put moved conn calls).conns slot).fd = none := by
    intro moved conn calls change
    by_cases same : slot = moved
    · subst same
      simpa [System.put] using down_of_change change down
    · simpa [System.put, same] using down
  cases operation with
  | connect slot attempt => cases other
  | send moved len => exact put (rpcConnSend_change _ len)
  | reset moved => exact put (rpcConnReset_change _)
  | disconnect moved => exact put (.dropped rfl)
  | epoll fd shared event =>
      simp only [perform]
      split
      · exact put (connEpollCb_change shared _ event)
      · exact down
  | otherOpens => exact down
  | otherTimer ms created => exact down
  | otherUses index use =>
      simp only [perform]
      split
      · exact down
      · exact down

theorem run_down {system : System Slot} {slot : Slot} (down : (system.conns slot).fd = none)
    {operations : List (Operation Slot)}
    (others : ∀ operation ∈ operations, isConnect operation = false) :
    ((run perform system operations).conns slot).fd = none := by
  induction operations generalizing system with
  | nil => exact down
  | cons operation rest induction =>
      exact induction (perform_down down (others operation List.mem_cons_self))
        fun later member => others later (List.mem_cons_of_mem _ member)

end Operations

/--
`rpc_proxy_destroy`, which destroys both slots of every pair.  What it does
with its timers, its listener and its client are operations of other modules.
-/
def rpcProxyDestroy (n : Nat) : List (Operation (Fin n × Fin 2)) :=
  (List.finRange n).flatMap fun node =>
    [.disconnect (node, firstSlot), .disconnect (node, secondSlot)]

theorem mem_rpcProxyDestroy {n : Nat} (slot : Fin n × Fin 2) :
    .disconnect slot ∈ rpcProxyDestroy n := by
  rcases slot with ⟨node, slot⟩
  refine List.mem_flatMap.mpr ⟨node, List.mem_finRange node, ?_⟩
  fin_cases slot <;> simp

theorem isConnect_rpcProxyDestroy {n : Nat} {operation : Operation (Fin n × Fin 2)}
    (member : operation ∈ rpcProxyDestroy n) :
    isConnect operation = false := by
  rcases List.mem_flatMap.mp member with ⟨node, -, either⟩
  simp only [List.mem_cons, List.not_mem_nil, or_false] at either
  rcases either with rfl | rfl <;> rfl

end RpcRace.Descriptors
