import Mathlib

/-!
# Byte memory and the C string functions over it

A buffer is the list of its bytes, from its first address to its last.  The
C functions below read such a list from their pointer on, so a pointer
`buf + k` is the list `buf.drop k`.  A C string ends before its first zero
byte; a memory without one ends at the end of the buffer.
-/

namespace RpcRace.Library.CString

/-- One byte of memory. -/
abbrev Byte := UInt8

/-- The bytes of a buffer in address order. -/
abbrev Memory := List Byte

/-- What holds of the 256 codes holds of every byte. -/
theorem forall_byte {property : Byte → Prop}
    (codes : ∀ code : Fin 256, property (UInt8.ofNat code)) (byte : Byte) : property byte := by
  have this := codes ⟨byte.toNat, byte.toNat_lt⟩
  rwa [UInt8.ofNat_toNat] at this

/-- The bytes of an ASCII literal. -/
def ascii (text : String) : Memory :=
  text.toList.map fun char => UInt8.ofNat char.toNat

/-- The effect of copying `bytes` to `buf + offset`. -/
def writeAt (memory : Memory) (offset : Nat) (bytes : Memory) : Memory :=
  memory.take offset ++ bytes ++ memory.drop (offset + bytes.length)

theorem take_writeAt {memory : Memory} {offset : Nat} (within : offset ≤ memory.length)
    (bytes : Memory) :
    (writeAt memory offset bytes).take (offset + bytes.length) = memory.take offset ++ bytes := by
  rw [writeAt]
  apply List.take_left'
  rw [List.length_append, List.length_take, min_eq_left within]

theorem length_writeAt {memory : Memory} {offset : Nat} (within : offset ≤ memory.length)
    (bytes : Memory) :
    (writeAt memory offset bytes).length = max memory.length (offset + bytes.length) := by
  simp only [writeAt, List.length_append, List.length_take, List.length_drop]
  omega

/-- The characters of a C string: everything before the terminating zero. -/
def cString (memory : Memory) : Memory :=
  memory.takeWhile (· ≠ 0)

theorem zero_notMem_cString (memory : Memory) : 0 ∉ cString memory := by
  intro member
  have nonzero := List.mem_takeWhile_imp member
  simp at nonzero

/-- Memory without a zero is a string up to its end. -/
theorem cString_of_notMem {memory : Memory} (clean : 0 ∉ memory) : cString memory = memory := by
  rw [cString, List.takeWhile_eq_self_iff]
  intro byte member
  simp only [ne_eq, decide_eq_true_eq]
  rintro rfl
  exact clean member

/-- Bytes without a zero are the beginning of the string. -/
theorem cString_append {front : Memory} (clean : 0 ∉ front) (tail : Memory) :
    cString (front ++ tail) = front ++ cString tail := by
  apply List.takeWhile_append_of_pos
  intro byte member
  simp only [ne_eq, decide_eq_true_eq]
  rintro rfl
  exact clean member

/-- `isspace` in the C locale. -/
def isSpace (byte : Byte) : Bool :=
  byte = 32 || (9 ≤ byte && byte ≤ 13)

/-- `isdigit`. -/
def isDigit (byte : Byte) : Bool :=
  48 ≤ byte && byte ≤ 57

/-- `tolower` in the C locale. -/
def toLower (byte : Byte) : Byte :=
  if 65 ≤ byte ∧ byte ≤ 90 then byte + 32 else byte

/-- `strncasecmp(memory, text, strlen(text)) == 0`. -/
def startsIgnoringCase (text memory : Memory) : Bool :=
  (memory.take text.length).map toLower = text.map toLower

/-- First offset at which `text` occurs, ignoring case. -/
def findIgnoringCase (text : Memory) : Memory → Option Nat
  | [] => if text = [] then some 0 else none
  | byte :: rest =>
      if startsIgnoringCase text (byte :: rest) then some 0
      else (findIgnoringCase text rest).map (· + 1)

/-- A match at the beginning is the first one. -/
theorem findIgnoringCase_of_starts {text memory : Memory}
    (starts : startsIgnoringCase text memory = true) :
    findIgnoringCase text memory = some 0 := by
  cases memory with
  | nil =>
      have empty : text = [] := by simpa [startsIgnoringCase, eq_comm] using starts
      rw [findIgnoringCase, if_pos empty]
  | cons byte rest => rw [findIgnoringCase, if_pos starts]

/-- A match lies within the memory. -/
theorem findIgnoringCase_bound {text memory : Memory} {position : Nat}
    (found : findIgnoringCase text memory = some position) :
    position + text.length ≤ memory.length := by
  induction memory generalizing position with
  | nil =>
      simp only [findIgnoringCase, Option.ite_none_right_eq_some, Option.some.injEq] at found
      simp [found.1, ← found.2]
  | cons byte rest induction =>
      rw [findIgnoringCase] at found
      split_ifs at found with here
      · cases found
        have lengths := congrArg List.length (of_decide_eq_true here)
        simp only [List.length_map, List.length_take] at lengths
        omega
      · rcases Option.map_eq_some_iff.mp found with ⟨later, match_, rfl⟩
        have bound := induction match_
        simp only [List.length_cons]
        omega

/-- A text does not match across a byte that it does not contain. -/
theorem startsIgnoringCase_stop {text front : Memory} {stop : Byte}
    (foreign : toLower stop ∉ text.map toLower) (tail : Memory) :
    startsIgnoringCase text (front ++ stop :: tail) = startsIgnoringCase text front := by
  rcases Nat.lt_or_ge front.length text.length with short | long
  · have inside : toLower stop ∈ ((front ++ stop :: tail).take text.length).map toLower := by
      rcases Nat.exists_eq_add_of_lt short with ⟨more, length_eq⟩
      rw [length_eq, Nat.add_assoc, List.take_length_add_append, List.take_succ_cons]
      simp
    have mismatch : (front.take text.length).map toLower ≠ text.map toLower := by
      intro same
      have lengths := congrArg List.length same
      simp only [List.length_map, List.length_take] at lengths
      omega
    have beyond : ((front ++ stop :: tail).take text.length).map toLower ≠ text.map toLower :=
      fun same => foreign (same ▸ inside)
    simp only [startsIgnoringCase, mismatch, beyond]
  · rw [startsIgnoringCase, startsIgnoringCase, List.take_append_of_le_length long]

/-- The first match is looked for up to such a byte first, and behind it then. -/
theorem findIgnoringCase_stop {text front : Memory} {stop : Byte}
    (foreign : toLower stop ∉ text.map toLower) (nonempty : text ≠ []) (tail : Memory) :
    findIgnoringCase text (front ++ stop :: tail) =
      (findIgnoringCase text front).or
        ((findIgnoringCase text tail).map (· + (front.length + 1))) := by
  induction front with
  | nil =>
      have mismatch : startsIgnoringCase text (stop :: tail) = false := by
        have same : startsIgnoringCase text ([] ++ stop :: tail) = startsIgnoringCase text [] :=
          startsIgnoringCase_stop foreign tail
        rw [List.nil_append] at same
        rw [same]
        simpa [startsIgnoringCase] using nonempty.symm
      simp [findIgnoringCase, mismatch, nonempty]
  | cons byte rest induction =>
      have same : startsIgnoringCase text (byte :: rest ++ stop :: tail) =
          startsIgnoringCase text (byte :: rest) :=
        startsIgnoringCase_stop foreign tail
      rw [List.cons_append] at same ⊢
      rw [findIgnoringCase, findIgnoringCase, same]
      split_ifs with here
      · rfl
      · rw [induction]
        cases findIgnoringCase text rest with
        | none => simp [Function.comp_def, Nat.add_assoc]
        | some position => rfl

/-- The same for memory that ends in such a byte. -/
theorem findIgnoringCase_append {text front : Memory} {stop : Byte}
    (ends : front.getLast? = some stop) (foreign : toLower stop ∉ text.map toLower)
    (nonempty : text ≠ []) (tail : Memory) :
    findIgnoringCase text (front ++ tail) =
      (findIgnoringCase text front).or
        ((findIgnoringCase text tail).map (· + front.length)) := by
  rcases List.getLast?_eq_some_iff.mp ends with ⟨line, rfl⟩
  have before : findIgnoringCase text (line ++ stop :: []) = _ :=
    findIgnoringCase_stop foreign nonempty []
  rw [List.append_assoc, List.singleton_append, findIgnoringCase_stop foreign nonempty, before]
  simp [findIgnoringCase, nonempty]

/-- `strcasestr`: the offset of the match, or `none` for a null result. -/
def strcasestr (memory text : Memory) : Option Nat :=
  findIgnoringCase text (cString memory)

/-- First offset at which `text` occurs. -/
def findText (text : Memory) : Memory → Option Nat
  | [] => if text = [] then some 0 else none
  | byte :: rest =>
      if text <+: byte :: rest then some 0 else (findText text rest).map (· + 1)

/-- The text is found at its first occurrence. -/
theorem findText_eq_some_iff {text memory : Memory} {position : Nat} :
    findText text memory = some position ↔
      text <+: memory.drop position ∧ ∀ earlier < position, ¬ text <+: memory.drop earlier := by
  induction memory generalizing position with
  | nil =>
      cases position with
      | zero => simp [findText]
      | succ position =>
          constructor
          · intro found
            rw [findText] at found
            split_ifs at found
            simp at found
          · rintro ⟨starts, none⟩
            rw [List.drop_nil] at starts
            exact absurd starts (none 0 (Nat.succ_pos _))
  | cons byte rest induction =>
      rw [findText]
      by_cases here : text <+: byte :: rest
      · rw [if_pos here]
        cases position with
        | zero => simp [here]
        | succ position =>
            constructor
            · intro found
              simp at found
            · rintro ⟨-, none⟩
              exact absurd here (none 0 (Nat.succ_pos _))
      · rw [if_neg here]
        cases position with
        | zero => simp [here]
        | succ position =>
            simp only [Option.map_eq_some_iff, Nat.add_right_cancel_iff, exists_eq_right,
              List.drop_succ_cons]
            rw [induction]
            refine and_congr_right fun _ => ?_
            constructor
            · intro none earlier before
              cases earlier with
              | zero => exact here
              | succ earlier => exact none earlier (Nat.lt_of_succ_lt_succ before)
            · intro none earlier before
              exact none (earlier + 1) (Nat.succ_lt_succ before)

theorem findText_eq_none_iff {text memory : Memory} :
    findText text memory = none ↔ ¬ text <:+: memory := by
  induction memory with
  | nil => simp [findText]
  | cons byte rest induction =>
      rw [findText, List.infix_cons_iff]
      by_cases here : text <+: byte :: rest
      · simp [here]
      · simp [here, induction]

/-- `strstr`: the offset of the match, or `none` for a null result. -/
def strstr (memory text : Memory) : Option Nat :=
  findText text (cString memory)

/-- `memchr` over the whole of `memory`. -/
def memchr (memory : Memory) (byte : Byte) : Option Nat :=
  memory.findIdx? (· = byte)

/-- The byte is found where everything before it is something else. -/
theorem memchr_eq_some_iff {memory : Memory} {byte : Byte} {position : Nat} :
    memchr memory byte = some position ↔
      ∃ front rest, memory = front ++ byte :: rest ∧ byte ∉ front ∧ front.length = position := by
  induction memory generalizing position with
  | nil => simp [memchr]
  | cons first memory induction =>
      by_cases here : first = byte
      · subst here
        simp only [memchr, List.findIdx?_cons, decide_true, if_true, Option.some.injEq]
        constructor
        · rintro rfl
          exact ⟨[], memory, rfl, by simp, rfl⟩
        · rintro ⟨front, rest, same, absent, rfl⟩
          cases front with
          | nil => rfl
          | cons other front =>
              rw [List.cons_append, List.cons.injEq] at same
              simp [same.1] at absent
      · have later : memchr (first :: memory) byte = (memchr memory byte).map (· + 1) := by
          simp [memchr, List.findIdx?_cons, here]
        rw [later, Option.map_eq_some_iff]
        constructor
        · rintro ⟨before, found, rfl⟩
          rcases induction.mp found with ⟨front, rest, rfl, absent, rfl⟩
          exact ⟨first :: front, rest, rfl, by simp [absent, Ne.symm here], rfl⟩
        · rintro ⟨front, rest, same, absent, rfl⟩
          cases front with
          | nil =>
              rw [List.nil_append, List.cons.injEq] at same
              exact absurd same.1 here
          | cons other front =>
              rw [List.cons_append, List.cons.injEq] at same
              rw [List.mem_cons, not_or] at absent
              exact ⟨front.length, induction.mpr ⟨front, rest, same.2, absent.2, rfl⟩, rfl⟩

/-- The number a run of decimal digits denotes. -/
def decimal (digits : Memory) : Nat :=
  digits.foldl (fun value digit => value * 10 + (digit.toNat - 48)) 0

/-- The sign and the digits that the `strto*` family reads in base ten. -/
def scanInteger (memory : Memory) : Bool × Nat :=
  match memory.dropWhile isSpace with
  | [] => (false, 0)
  | byte :: rest =>
      if byte = 45 then (true, decimal (rest.takeWhile isDigit))
      else if byte = 43 then (false, decimal (rest.takeWhile isDigit))
      else (false, decimal ((byte :: rest).takeWhile isDigit))

/-- Number of values of `size_t` and of `unsigned long long`. -/
def sizeModulus : Nat := 2 ^ 64

/--
`strtoull(memory, NULL, 10)`: a magnitude out of range saturates, and a
minus sign negates modulo `2 ^ 64`.
-/
def strtoull (memory : Memory) : Nat :=
  match scanInteger memory with
  | (negative, magnitude) =>
      if sizeModulus ≤ magnitude then sizeModulus - 1
      else if negative then (sizeModulus - magnitude) % sizeModulus
      else magnitude

/-- A digit is neither white space nor a sign. -/
theorem plain_of_isDigit {byte : Byte} (digit : isDigit byte = true) :
    isSpace byte = false ∧ byte ≠ 45 ∧ byte ≠ 43 := by
  simp only [isDigit, isSpace, Bool.and_eq_true, Bool.or_eq_false_iff, Bool.and_eq_false_iff,
    decide_eq_true_eq, decide_eq_false_iff_not, UInt8.le_iff_toNat_le, ne_eq,
    ← UInt8.toNat_inj, UInt8.reduceToNat] at digit ⊢
  omega

/-- A number ends before a byte that is no digit. -/
theorem takeWhile_stop {digits : Memory} {stop : Byte} (other : isDigit stop = false)
    (tail : Memory) :
    (digits ++ stop :: tail).takeWhile isDigit = digits.takeWhile isDigit := by
  induction digits with
  | nil => simp [other]
  | cons first rest induction =>
      rw [List.cons_append, List.takeWhile_cons, List.takeWhile_cons, induction]

/-- A text that starts with a digit is read up to the end of its digits. -/
theorem strtoull_of_isDigit {first : Byte} {rest : Memory} (digit : isDigit first = true)
    (small : decimal ((first :: rest).takeWhile isDigit) < sizeModulus) :
    strtoull (first :: rest) = decimal ((first :: rest).takeWhile isDigit) := by
  rcases plain_of_isDigit digit with ⟨spaceless, unsigned⟩
  have scanned : scanInteger (first :: rest) =
      (false, decimal ((first :: rest).takeWhile isDigit)) := by
    rw [scanInteger, List.dropWhile_cons_of_neg (by simp [spaceless])]
    simp only [unsigned.1, unsigned.2, if_false]
  rw [strtoull, scanned]
  simp [Nat.not_le.mpr small]

/-- `atoi`: `strtol`, saturating at 64 bits, cut down to a 32-bit `int`. -/
def atoi (memory : Memory) : Int :=
  match scanInteger memory with
  | (negative, magnitude) =>
      let signed : Int := if negative then -(magnitude : Int) else magnitude
      Int.bmod (max (-2 ^ 63) (min signed (2 ^ 63 - 1))) (2 ^ 32)

end RpcRace.Library.CString
