import Mathlib
import RpcRace.Library.Run

/-!
# Messages over one connection at a time

A courier sends messages over connections that it opens itself, one after the
other.  A write takes a message whole, not at all, or in part.  What was done
is logged, newest first, and connections are numbered in the order they are
opened.

A courier that gives up a connection as soon as a message was cut on it leaves
whole messages on every stream (`Kept.wholeStreams`), because each attempt to
send keeps `Kept` (`Kept.delivery`).
-/

namespace RpcRace.Library.Sending

open RpcRace.Library.Run

/-! ## Couriers -/

/-- What is done to a connection. -/
inductive Act (Symbol : Type) where
  | opened (conn : Nat)
  /-- This many symbols of the message were taken. -/
  | wrote (conn : Nat) (message : List Symbol) (count : Nat)
  /-- The other side was seen to have closed it. -/
  | hungUp (conn : Nat)
  | closed (conn : Nat)
deriving DecidableEq, Repr

/-- A courier with the connection it holds and the number of the next one. -/
structure Courier (Symbol : Type) where
  conn : Option Nat
  next : Nat
  log : List (Act Symbol)

variable {Symbol : Type}

def Act.conn : Act Symbol → Nat
  | .opened conn => conn
  | .wrote conn _ _ => conn
  | .hungUp conn => conn
  | .closed conn => conn

namespace Courier

/-- A courier that has opened nothing yet. -/
def fresh : Courier Symbol :=
  ⟨none, 0, []⟩

def connect (courier : Courier Symbol) : Courier Symbol :=
  ⟨some courier.next, courier.next + 1, .opened courier.next :: courier.log⟩

def write (courier : Courier Symbol) (conn : Nat) (message : List Symbol) (count : Nat) :
    Courier Symbol :=
  { courier with log := .wrote conn message count :: courier.log }

def hangUp (courier : Courier Symbol) (conn : Nat) : Courier Symbol :=
  { courier with log := .hungUp conn :: courier.log }

def close (courier : Courier Symbol) (conn : Nat) : Courier Symbol :=
  { courier with conn := none, log := .closed conn :: courier.log }

end Courier

/-! ## Streams -/

/-- What was written to a connection, in order. -/
def stream (conn : Nat) : List (Act Symbol) → List Symbol
  | [] => []
  | .wrote other message count :: past =>
      if other = conn then stream conn past ++ message.take count else stream conn past
  | _ :: past => stream conn past

/-- Number of writes. -/
def writeCount : List (Act Symbol) → Nat
  | [] => 0
  | .wrote _ _ _ :: past => writeCount past + 1
  | _ :: past => writeCount past

/-- A write that did not cut its message. -/
def Uncut (message : List Symbol) (count : Nat) : Prop :=
  count = 0 ∨ count = message.length

/-- No connection is written to after it was marked. -/
def NotAfter (mark : Nat → Act Symbol) (act : Act Symbol) (past : List (Act Symbol)) : Prop :=
  match act with
  | .wrote conn _ _ => mark conn ∉ past
  | _ => True

instance decidableNotAfter [DecidableEq Symbol] (mark : Nat → Act Symbol) (act : Act Symbol)
    (past : List (Act Symbol)) : Decidable (NotAfter mark act past) :=
  match act with
  | .wrote conn _ _ => inferInstanceAs (Decidable (mark conn ∉ past))
  | .opened _ => .isTrue trivial
  | .hungUp _ => .isTrue trivial
  | .closed _ => .isTrue trivial

/-- A connection is written to only while nothing was cut on it. -/
def AfterUncut (act : Act Symbol) (past : List (Act Symbol)) : Prop :=
  match act with
  | .wrote conn _ _ => ∀ message count, .wrote conn message count ∈ past → Uncut message count
  | _ => True

/--
Every stream consists of valid messages.  The last one may be cut short, on a
connection that is closed, and a closed connection is never written to.
-/
structure WholeStreams (valid : List Symbol → Prop) (log : List (Act Symbol)) : Prop where
  whole : ∀ conn, ∃ (complete : List (List Symbol)) (tail : List Symbol),
    stream conn log = complete.flatten ++ tail ∧ (∀ message ∈ complete, valid message) ∧
    (tail = [] ∨ (.closed conn ∈ log ∧ ∃ message, valid message ∧ tail <+: message ∧
      tail ≠ message))
  final : AtEach (NotAfter .closed) log

/-- What a courier keeps to. -/
structure Kept (valid : List Symbol → Prop) (courier : Courier Symbol) : Prop where
  known : ∀ act ∈ courier.log, act.conn < courier.next
  held : ∀ conn, courier.conn = some conn → conn < courier.next ∧ .closed conn ∉ courier.log ∧
    ∀ message count, .wrote conn message count ∈ courier.log → Uncut message count
  cut : ∀ conn message count, .wrote conn message count ∈ courier.log →
    ¬ Uncut message count → .closed conn ∈ courier.log
  sent : ∀ conn message count, .wrote conn message count ∈ courier.log →
    valid message ∧ count ≤ message.length
  final : AtEach (NotAfter .closed) courier.log
  uncut : AtEach AfterUncut courier.log

/-- Writes that were cut at most at the end leave whole messages and one tail. -/
theorem stream_eq_flatten {valid : List Symbol → Prop} {log : List (Act Symbol)}
    (sent : ∀ conn message count, .wrote conn message count ∈ log → valid message)
    (uncut : AtEach AfterUncut log) (conn : Nat) :
    ∃ (complete : List (List Symbol)) (tail : List Symbol),
      stream conn log = complete.flatten ++ tail ∧ (∀ message ∈ complete, valid message) ∧
      (tail = [] ∨ ∃ message count, .wrote conn message count ∈ log ∧
        ¬ Uncut message count ∧ tail = message.take count) := by
  induction log with
  | nil => exact ⟨[], [], rfl, by simp, Or.inl rfl⟩
  | cons act past induction =>
      rcases induction (fun _ _ _ member => sent _ _ _ (List.mem_cons_of_mem _ member)) uncut.2 with
        ⟨complete, tail, streamed, all, ending⟩
      have later : stream conn (act :: past) = stream conn past →
          ∃ (complete : List (List Symbol)) (tail : List Symbol),
            stream conn (act :: past) = complete.flatten ++ tail ∧
            (∀ message ∈ complete, valid message) ∧
            (tail = [] ∨ ∃ message count, .wrote conn message count ∈ act :: past ∧
              ¬ Uncut message count ∧ tail = message.take count) := by
        intro same
        refine ⟨complete, tail, by rw [same, streamed], all, ?_⟩
        rcases ending with none | ⟨message, count, member, part, rfl⟩
        · exact Or.inl none
        · exact Or.inr ⟨message, count, List.mem_cons_of_mem _ member, part, rfl⟩
      cases act with
      | opened other => exact later rfl
      | hungUp other => exact later rfl
      | closed other => exact later rfl
      | wrote other message count =>
          by_cases mine : other = conn
          · subst mine
            -- What was written to this connection before was not cut, so there is no tail yet.
            obtain rfl : tail = [] := by
              rcases ending with none | ⟨message, count, member, part, -⟩
              · exact none
              · exact absurd (uncut.1 message count member) part
            have grown : stream other (.wrote other message count :: past) =
                complete.flatten ++ message.take count := by
              rw [stream, if_pos rfl, streamed, List.append_nil]
            by_cases whole : Uncut message count
            · rcases whole with rfl | rfl
              · exact ⟨complete, [], by rw [grown, List.take_zero], all, Or.inl rfl⟩
              · refine ⟨complete ++ [message], [], by simp [grown], ?_, Or.inl rfl⟩
                intro one member
                rcases List.mem_append.mp member with old | new
                · exact all one old
                · rw [List.mem_singleton.mp new]
                  exact sent other message _ List.mem_cons_self
            · exact ⟨complete, _, grown, all,
                Or.inr ⟨message, count, List.mem_cons_self, whole, rfl⟩⟩
          · exact later (if_neg mine)

theorem Kept.wholeStreams {valid : List Symbol → Prop} {courier : Courier Symbol}
    (kept : Kept valid courier) :
    WholeStreams valid courier.log := by
  refine ⟨fun conn => ?_, kept.final⟩
  rcases stream_eq_flatten (fun _ _ _ member => (kept.sent _ _ _ member).1) kept.uncut conn with
    ⟨complete, tail, streamed, all, ending⟩
  refine ⟨complete, tail, streamed, all, ?_⟩
  rcases ending with none | ⟨message, count, member, part, rfl⟩
  · exact Or.inl none
  · right
    refine ⟨kept.cut _ _ _ member part, message, (kept.sent _ _ _ member).1,
      List.take_prefix _ _, fun same => ?_⟩
    have lengths := congrArg List.length same
    rw [List.length_take] at lengths
    have bound := (kept.sent _ _ _ member).2
    simp only [Uncut, not_or] at part
    omega

/-! ## Sending -/

/-- One write to the connection that is held, which is given up if the message was cut. -/
inductive Attempt (message : List Symbol) : Courier Symbol → Courier Symbol → Prop where
  | kept {courier : Courier Symbol} {conn count : Nat} (held : courier.conn = some conn)
      (uncut : Uncut message count) :
      Attempt message courier (courier.write conn message count)
  | givenUp {courier : Courier Symbol} {conn count : Nat} (held : courier.conn = some conn)
      (part : count ≤ message.length) :
      Attempt message courier ((courier.write conn message count).close conn)

/-- What it takes to send a message: nothing, or a write after connecting on demand. -/
inductive Delivery (message : List Symbol) : Courier Symbol → Courier Symbol → Prop where
  | skipped {courier : Courier Symbol} : Delivery message courier courier
  | held {courier after : Courier Symbol} (attempt : Attempt message courier after) :
      Delivery message courier after
  | connected {courier after : Courier Symbol} (idle : courier.conn = none)
      (attempt : Attempt message courier.connect after) :
      Delivery message courier after

section Rules

variable {valid : List Symbol → Prop} {message : List Symbol} {courier after : Courier Symbol}

theorem Kept.fresh : Kept valid (Courier.fresh : Courier Symbol) :=
  ⟨by simp [Courier.fresh], by simp [Courier.fresh], by simp [Courier.fresh],
    by simp [Courier.fresh], trivial, trivial⟩

/-- Nothing is known of the next connection. -/
theorem Kept.unknown (kept : Kept valid courier) {act : Act Symbol}
    (next : act.conn = courier.next) :
    act ∉ courier.log := by
  intro member
  have below := kept.known act member
  omega

theorem Kept.connect (kept : Kept valid courier) : Kept valid courier.connect := by
  refine ⟨?_, ?_, ?_, ?_, ⟨trivial, kept.final⟩, ⟨trivial, kept.uncut⟩⟩
  · intro act member
    rcases List.mem_cons.mp member with rfl | old
    · exact Nat.lt_succ_self _
    · exact Nat.lt_succ_of_lt (kept.known act old)
  · intro conn same
    obtain rfl : courier.next = conn := Option.some.inj same
    refine ⟨Nat.lt_succ_self _, ?_, ?_⟩
    · have unknown : .closed courier.next ∉ courier.log := kept.unknown rfl
      simp [Courier.connect, unknown]
    · intro message count member
      have unknown : .wrote courier.next message count ∉ courier.log := kept.unknown rfl
      simp [Courier.connect, unknown] at member
  · intro conn message count member part
    have old : .wrote conn message count ∈ courier.log := by simpa [Courier.connect] using member
    exact List.mem_cons_of_mem _ (kept.cut conn message count old part)
  · intro conn message count member
    have old : .wrote conn message count ∈ courier.log := by simpa [Courier.connect] using member
    exact kept.sent conn message count old

theorem Kept.hangUp (kept : Kept valid courier) {conn : Nat} (held : courier.conn = some conn) :
    Kept valid (courier.hangUp conn) := by
  refine ⟨?_, ?_, ?_, ?_, ⟨trivial, kept.final⟩, ⟨trivial, kept.uncut⟩⟩
  · intro act member
    rcases List.mem_cons.mp member with rfl | old
    · exact (kept.held conn held).1
    · exact kept.known act old
  · simpa [Courier.hangUp] using kept.held
  · simpa [Courier.hangUp] using kept.cut
  · simpa [Courier.hangUp] using kept.sent

/-- What a write to the held connection adds to the log. -/
theorem Kept.logged (kept : Kept valid courier) {conn count : Nat}
    (held : courier.conn = some conn) (new : valid message) (part : count ≤ message.length) :
    (∀ act ∈ (courier.write conn message count).log, act.conn < courier.next) ∧
    (∀ other one taken, .wrote other one taken ∈ (courier.write conn message count).log →
      valid one ∧ taken ≤ one.length) ∧
    AtEach (NotAfter .closed) (courier.write conn message count).log ∧
    AtEach AfterUncut (courier.write conn message count).log := by
  rcases kept.held conn held with ⟨below, unclosed, uncut⟩
  refine ⟨?_, ?_, ⟨unclosed, kept.final⟩, ⟨uncut, kept.uncut⟩⟩
  · intro act member
    rcases List.mem_cons.mp member with rfl | old
    · exact below
    · exact kept.known act old
  · intro other one taken member
    rcases List.mem_cons.mp member with same | old
    · cases same
      exact ⟨new, part⟩
    · exact kept.sent other one taken old

theorem Kept.attempt (kept : Kept valid courier) (new : valid message)
    (attempt : Attempt message courier after) :
    Kept valid after := by
  cases attempt with
  | @kept conn count held uncut =>
      have part : count ≤ message.length := by
        rcases uncut with rfl | rfl
        · exact Nat.zero_le _
        · exact Nat.le_refl _
      rcases kept.logged held new part with ⟨known, sent, final, ordered⟩
      refine ⟨known, ?_, ?_, sent, final, ordered⟩
      · intro other same
        rcases kept.held other same with ⟨below, unclosed, before⟩
        refine ⟨below, by simpa [Courier.write] using unclosed, fun one taken member => ?_⟩
        rcases List.mem_cons.mp member with equal | old
        · cases equal
          exact uncut
        · exact before one taken old
      · intro other one taken member some_
        rcases List.mem_cons.mp member with equal | old
        · cases equal
          exact absurd uncut some_
        · exact List.mem_cons_of_mem _ (kept.cut other one taken old some_)
  | @givenUp conn count held part =>
      rcases kept.logged held new part with ⟨known, sent, final, ordered⟩
      refine ⟨?_, by simp [Courier.close], ?_, ?_, ⟨trivial, final⟩, ⟨trivial, ordered⟩⟩
      · intro act member
        rcases List.mem_cons.mp member with rfl | old
        · exact (kept.held conn held).1
        · exact known act old
      · intro other one taken member some_
        simp only [Courier.close, Courier.write, List.mem_cons, reduceCtorEq, false_or] at member ⊢
        rcases member with equal | old
        · cases equal
          exact Or.inl rfl
        · exact Or.inr (kept.cut other one taken old some_)
      · simpa [Courier.close] using sent

/-- However a message is sent, the courier keeps to it. -/
theorem Kept.delivery (kept : Kept valid courier) (new : valid message)
    (delivery : Delivery message courier after) :
    Kept valid after := by
  cases delivery with
  | skipped => exact kept
  | held attempt => exact kept.attempt new attempt
  | connected idle attempt => exact kept.connect.attempt new attempt

theorem Delivery.writeCount_le (delivery : Delivery message courier after) :
    writeCount after.log ≤ writeCount courier.log + 1 := by
  cases delivery with
  | skipped => exact Nat.le_succ _
  | held attempt => cases attempt <;> exact Nat.le_refl _
  | connected idle attempt => cases attempt <;> exact Nat.le_refl _

/-- A courier whose connection was not seen to be hung up does not write to such a one. -/
theorem Delivery.notAfter_hungUp (delivery : Delivery message courier after)
    (kept : Kept valid courier)
    (up : ∀ conn, courier.conn = some conn → .hungUp conn ∉ courier.log)
    (before : AtEach (NotAfter .hungUp) courier.log) :
    AtEach (NotAfter .hungUp) after.log := by
  cases delivery with
  | skipped => exact before
  | held attempt =>
      cases attempt with
      | kept held _ => exact ⟨up _ held, before⟩
      | givenUp held _ => exact ⟨trivial, up _ held, before⟩
  | connected idle attempt =>
      have unknown : ∀ conn, courier.connect.conn = some conn →
          .hungUp conn ∉ courier.connect.log := by
        intro conn same
        obtain rfl : courier.next = conn := Option.some.inj same
        have unknown : .hungUp courier.next ∉ courier.log := kept.unknown rfl
        simp [Courier.connect, unknown]
      cases attempt with
      | kept held _ => exact ⟨unknown _ held, trivial, before⟩
      | givenUp held _ => exact ⟨trivial, unknown _ held, trivial, before⟩

end Rules

end RpcRace.Library.Sending
