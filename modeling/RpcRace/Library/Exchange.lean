import Mathlib

/-!
# Requests and answers on one connection

A connection carries requests in one direction and answers in the other, as
streams of bytes with no borders of their own.  The user begins a request of
some length, writes it in parts, and reads the answer in parts; the peer
answers the requests that it has read completely, one after the other.
Between two requests the streams are `Balanced`; while a request is written
they are `Writing`, and while its answer is read they are `Reading`.
-/

namespace RpcRace.Library.Exchange

variable {Byte : Type}

/-- What has passed on one connection. -/
structure Traffic (Byte : Type) where
  /-- The lengths of the requests that were begun, the oldest first. -/
  lens : List Nat
  /-- The number of bytes written. -/
  written : Nat
  /-- The bytes read. -/
  received : List Byte

namespace Traffic

/-- A connection that was just opened. -/
def empty : Traffic Byte :=
  ⟨[], 0, []⟩

/-- A request is begun. -/
def start (traffic : Traffic Byte) (len : Nat) : Traffic Byte :=
  { traffic with lens := traffic.lens ++ [len] }

/-- Some bytes are written and some are read. -/
def transfer (traffic : Traffic Byte) (count : Nat) (bytes : List Byte) : Traffic Byte :=
  { traffic with
    written := traffic.written + count
    received := traffic.received ++ bytes }

@[simp]
theorem transfer_nothing (traffic : Traffic Byte) : traffic.transfer 0 [] = traffic := by
  simp [transfer]

end Traffic

/-- The answers to the first requests, one after the other. -/
def answersUpTo (answers : Nat → List Byte) (count : Nat) : List Byte :=
  (List.range count).flatMap answers

theorem answersUpTo_succ (answers : Nat → List Byte) (count : Nat) :
    answersUpTo answers (count + 1) = answersUpTo answers count ++ answers count := by
  simp [answersUpTo, List.range_succ]

/-- The number of requests that lie within the first `written` bytes. -/
def completed : List Nat → Nat → Nat
  | [], _ => 0
  | len :: rest, written => if len ≤ written then completed rest (written - len) + 1 else 0

theorem completed_sum (lens : List Nat) : completed lens lens.sum = lens.length := by
  induction lens with
  | nil => rfl
  | cons len rest induction =>
      rw [List.sum_cons, completed, if_pos (Nat.le_add_right _ _), Nat.add_sub_cancel_left,
        induction, List.length_cons]

section Phases

variable (answers : Nat → List Byte) (traffic : Traffic Byte)

/-- The peer answers in order, and no request before it has read all of it. -/
def Served : Prop :=
  traffic.received <+: answersUpTo answers (completed traffic.lens traffic.written)

/-- Every request was written, and every answer was read, to the end. -/
structure Balanced : Prop where
  written_eq : traffic.written = traffic.lens.sum
  received_eq : traffic.received = answersUpTo answers traffic.lens.length

/-- The latest request is written up to `offset`, and all the others are answered. -/
structure Writing (len offset : Nat) : Prop where
  begun : ∃ earlier : List Nat,
    traffic.lens = earlier ++ [len] ∧ traffic.written = earlier.sum + offset ∧
      traffic.received = answersUpTo answers earlier.length

/-- The latest request is written, and `part` of its answer has been read. -/
structure Reading (part : List Byte) : Prop where
  begun : ∃ (earlier : List Nat) (len : Nat),
    traffic.lens = earlier ++ [len] ∧ traffic.written = earlier.sum + len ∧
      traffic.received = answersUpTo answers earlier.length ++ part

/-- The answer to the latest request. -/
def latestAnswer : List Byte :=
  answers (traffic.lens.length - 1)

end Phases

instance [DecidableEq Byte] (answers : Nat → List Byte) (traffic : Traffic Byte) :
    Decidable (Served answers traffic) :=
  inferInstanceAs (Decidable (_ <+: _))

instance [DecidableEq Byte] (answers : Nat → List Byte) (traffic : Traffic Byte) :
    Decidable (Balanced answers traffic) :=
  decidable_of_iff
    (traffic.written = traffic.lens.sum ∧
      traffic.received = answersUpTo answers traffic.lens.length)
    ⟨fun both => ⟨both.1, both.2⟩, fun balanced => ⟨balanced.written_eq, balanced.received_eq⟩⟩

variable {answers : Nat → List Byte} {traffic : Traffic Byte}

theorem balanced_empty : Balanced answers .empty :=
  ⟨rfl, rfl⟩

theorem Balanced.start (balanced : Balanced answers traffic) (len : Nat) :
    Writing answers (traffic.start len) len 0 :=
  ⟨traffic.lens, rfl, balanced.written_eq, balanced.received_eq⟩

theorem Writing.write {len offset : Nat} (writing : Writing answers traffic len offset)
    (count : Nat) :
    Writing answers (traffic.transfer count []) len (offset + count) := by
  rcases writing.begun with ⟨earlier, lens_eq, written_eq, received_eq⟩
  refine ⟨earlier, lens_eq, ?_, ?_⟩
  · simp only [Traffic.transfer]
    omega
  · simpa [Traffic.transfer] using received_eq

theorem Writing.finish {len : Nat} (writing : Writing answers traffic len len) :
    Reading answers traffic [] := by
  rcases writing.begun with ⟨earlier, lens_eq, written_eq, received_eq⟩
  exact ⟨earlier, len, lens_eq, written_eq, by simpa using received_eq⟩

theorem Reading.read {part : List Byte} (reading : Reading answers traffic part)
    (bytes : List Byte) :
    Reading answers (traffic.transfer 0 bytes) (part ++ bytes) := by
  rcases reading.begun with ⟨earlier, len, lens_eq, written_eq, received_eq⟩
  refine ⟨earlier, len, lens_eq, written_eq, ?_⟩
  simp only [Traffic.transfer]
  rw [received_eq, List.append_assoc]

/-- What has been read of the latest answer is a part of it. -/
theorem Reading.part_of_served {part : List Byte} (reading : Reading answers traffic part)
    (served : Served answers traffic) :
    part <+: latestAnswer answers traffic := by
  rcases reading.begun with ⟨earlier, len, lens_eq, written_eq, received_eq⟩
  have sum_eq : traffic.written = traffic.lens.sum := by
    rw [lens_eq, written_eq]
    simp
  have latest : latestAnswer answers traffic = answers earlier.length := by
    simp [latestAnswer, lens_eq]
  rw [Served, sum_eq, completed_sum, received_eq, lens_eq, List.length_append,
    List.length_singleton, answersUpTo_succ, List.prefix_append_right_inj] at served
  rw [latest]
  exact served

/-- When the whole answer has been read, the streams are balanced again. -/
theorem Reading.finish {part : List Byte} (reading : Reading answers traffic part)
    (whole : part = latestAnswer answers traffic) :
    Balanced answers traffic := by
  rcases reading.begun with ⟨earlier, len, lens_eq, written_eq, received_eq⟩
  constructor
  · rw [lens_eq, written_eq]
    simp
  · rw [received_eq, whole, lens_eq, List.length_append, List.length_singleton,
      answersUpTo_succ, latestAnswer, lens_eq]
    simp

theorem Reading.lens_ne_nil {part : List Byte} (reading : Reading answers traffic part) :
    traffic.lens ≠ [] := by
  rcases reading.begun with ⟨earlier, len, lens_eq, -⟩
  rw [lens_eq]
  simp

end RpcRace.Library.Exchange
