import Mathlib
import RpcRace.Library.CString

/-!
# Decimal numbers in texts

`strtol` in base ten, with the text that its end pointer is left at, and the
conversion `%u` of the `printf` family.  A text is cut where a kind of
character stops, so the rules about such cuts come first.
-/

namespace RpcRace.Library.Numeral

open RpcRace.Library.CString

/-! ## Where a kind of character stops -/

/-- A text that does not go on with a character of this kind. -/
def Stops (kind : Byte → Bool) (tail : Memory) : Prop :=
  ∀ byte ∈ tail.head?, kind byte = false

section Stops

variable {kind : Byte → Bool} {front tail : Memory}

theorem stops_cons {byte : Byte} (other : kind byte = false) : Stops kind (byte :: tail) := by
  intro head member
  rw [List.head?_cons, Option.mem_some] at member
  rwa [← member]

theorem stops_dropWhile (text : Memory) : Stops kind (text.dropWhile kind) := by
  intro byte member
  have stopped := List.head?_dropWhile_not kind text
  rw [Option.mem_def.mp member] at stopped
  simpa using stopped

theorem takeWhile_append_of_stops (all : ∀ byte ∈ front, kind byte = true)
    (stops : Stops kind tail) :
    (front ++ tail).takeWhile kind = front := by
  rw [List.takeWhile_append_of_pos all]
  cases tail with
  | nil => simp
  | cons byte rest => simp [stops byte rfl]

theorem dropWhile_append_of_stops (all : ∀ byte ∈ front, kind byte = true)
    (stops : Stops kind tail) :
    (front ++ tail).dropWhile kind = tail := by
  rw [List.dropWhile_append_of_pos all]
  cases tail with
  | nil => rfl
  | cons byte rest => simp [stops byte rfl]

/-- There is one way to cut a text where a kind of character stops. -/
theorem append_inj_of_stops {other rest : Memory} (same : front ++ tail = other ++ rest)
    (all : ∀ byte ∈ front, kind byte = true) (stops : Stops kind tail)
    (otherAll : ∀ byte ∈ other, kind byte = true) (restStops : Stops kind rest) :
    front = other ∧ tail = rest := by
  constructor
  · rw [← takeWhile_append_of_stops all stops, same, takeWhile_append_of_stops otherAll restStops]
  · rw [← dropWhile_append_of_stops all stops, same, dropWhile_append_of_stops otherAll restStops]

end Stops

/-! ## `strtol` -/

/-- Whether a text begins with a minus sign, and the text behind its sign. -/
def scanSign : Memory → Bool × Memory
  | [] => (false, [])
  | byte :: rest =>
      if byte = 45 then (true, rest)
      else if byte = 43 then (false, rest)
      else (false, byte :: rest)

/-- The nearest `long`. -/
def clampLong (value : Int) : Int :=
  max (-2 ^ 63) (min value (2 ^ 63 - 1))

/--
`strtol(memory, &end, 10)`: the number and what `end` points to.  Without a
digit `end` is `memory` itself; that is `none`.
-/
def strtol (memory : Memory) : Option (Int × Memory) :=
  let signed := scanSign (memory.dropWhile isSpace)
  let digits := signed.2.takeWhile isDigit
  if digits = [] then none
  else
    some (clampLong (if signed.1 then -(decimal digits : Int) else decimal digits),
      signed.2.dropWhile isDigit)

/-- What `strtol` reads as a positive number: white space, a sign, digits, and what follows. -/
structure Written (blanks sign digits rest : Memory) : Prop where
  blank : ∀ byte ∈ blanks, isSpace byte = true
  positive : sign = [] ∨ sign = [43]
  nonempty : digits ≠ []
  decimal : ∀ byte ∈ digits, isDigit byte = true
  ends : Stops isDigit rest

/-- A text without a minus sign is a plus sign or nothing, and the rest. -/
theorem scanSign_spec {text : Memory} (unsigned : (scanSign text).1 = false) :
    ∃ sign, (sign = [] ∨ sign = [43]) ∧ text = sign ++ (scanSign text).2 := by
  cases text with
  | nil => exact ⟨[], Or.inl rfl, rfl⟩
  | cons byte rest =>
      rw [scanSign] at unsigned ⊢
      split_ifs at unsigned ⊢ with minus plus
      · exact ⟨[43], Or.inr rfl, by rw [plus]; rfl⟩
      · exact ⟨[], Or.inl rfl, rfl⟩

theorem scanSign_of_written {blanks sign digits rest : Memory}
    (written : Written blanks sign digits rest) :
    Stops isSpace (sign ++ (digits ++ rest)) ∧
      scanSign (sign ++ (digits ++ rest)) = (false, digits ++ rest) := by
  rcases List.exists_cons_of_ne_nil written.nonempty with ⟨first, others, rfl⟩
  rcases plain_of_isDigit (written.decimal first List.mem_cons_self) with ⟨spaceless, minus, plus⟩
  rcases written.positive with rfl | rfl
  · exact ⟨stops_cons spaceless, by simp [scanSign, minus, plus]⟩
  · exact ⟨stops_cons (by decide), by simp [scanSign]⟩

/-- A positive number that fits is read from exactly the texts that write it. -/
theorem strtol_eq_some_iff {memory rest : Memory} {value : Nat} (positive : 0 < value)
    (small : value < 2 ^ 63 - 1) :
    strtol memory = some ((value : Int), rest) ↔
      ∃ blanks sign digits, memory = blanks ++ (sign ++ (digits ++ rest)) ∧
        Written blanks sign digits rest ∧ decimal digits = value := by
  constructor
  · intro read
    have cut : memory.takeWhile isSpace ++ memory.dropWhile isSpace = memory :=
      List.takeWhile_append_dropWhile
    unfold strtol at read
    dsimp only at read
    split_ifs at read with empty minus
    · -- A minus sign leaves nothing positive.
      have negative := congrArg Prod.fst (Option.some.inj read)
      simp only [clampLong] at negative
      omega
    · rw [Option.some.injEq, Prod.mk.injEq] at read
      rcases read with ⟨number, rfl⟩
      rw [Bool.not_eq_true] at minus
      rcases scanSign_spec minus with ⟨sign, plus, text⟩
      have digits : (scanSign (memory.dropWhile isSpace)).2.takeWhile isDigit ++
          (scanSign (memory.dropWhile isSpace)).2.dropWhile isDigit =
            (scanSign (memory.dropWhile isSpace)).2 :=
        List.takeWhile_append_dropWhile
      refine ⟨memory.takeWhile isSpace, sign, _, by rw [digits, ← text, cut],
        ⟨fun _ => List.mem_takeWhile_imp, plus, empty, fun _ => List.mem_takeWhile_imp,
          stops_dropWhile _⟩, ?_⟩
      rw [clampLong] at number
      omega
  · rintro ⟨blanks, sign, digits, rfl, written, rfl⟩
    rcases scanSign_of_written written with ⟨stops, scanned⟩
    have clamped : clampLong (decimal digits : Int) = decimal digits := by
      rw [clampLong]
      omega
    simp only [strtol, dropWhile_append_of_stops written.blank stops, scanned,
      takeWhile_append_of_stops written.decimal written.ends,
      dropWhile_append_of_stops written.decimal written.ends, if_neg written.nonempty,
      Bool.false_eq_true, if_false, clamped]

/-! ## `%u` -/

/-- The conversion `%u`. -/
def decimalText (value : Nat) : Memory :=
  ascii (Nat.repr value)

theorem length_decimalText_le {value places : Nat} (some_ : 0 < places)
    (small : value < 10 ^ places) :
    (decimalText value).length ≤ places := by
  have bound := Nat.repr_length value places some_ small
  rwa [decimalText, ascii, List.length_map, String.length_toList]

/-- A number is written in digits only. -/
theorem isDigit_of_mem_decimalText {value : Nat} {byte : Byte}
    (member : byte ∈ decimalText value) :
    isDigit byte = true := by
  rw [decimalText, ascii, List.mem_map] at member
  rcases member with ⟨char, inside, rfl⟩
  rw [Nat.toList_repr] at inside
  have digit := Nat.isDigit_of_mem_toDigits (by decide) (by decide) inside
  rcases Char.isDigit_iff_toNat.mp digit with ⟨low, high⟩
  have zero : '0'.toNat = 48 := rfl
  have nine : '9'.toNat = 57 := rfl
  have code : (UInt8.ofNat char.toNat).toNat = char.toNat :=
    UInt8.toNat_ofNat_of_lt (by change char.toNat < 256; omega)
  simp only [isDigit, Bool.and_eq_true, decide_eq_true_eq, UInt8.le_iff_toNat_le, code]
  change 48 ≤ char.toNat ∧ char.toNat ≤ 57
  omega

theorem decimalText_ne_nil (value : Nat) : decimalText value ≠ [] := by
  simp [decimalText, ascii, Nat.toList_repr]

/-- What is written is the number. -/
theorem decimal_decimalText (value : Nat) : decimal (decimalText value) = value := by
  have same : decimal (decimalText value) = Nat.ofDigitChars 10 (Nat.toDigits 10 value) 0 := by
    rw [decimal, decimalText, ascii, List.foldl_map, Nat.toList_repr, Nat.ofDigitChars_eq_foldl]
    apply List.foldl_ext
    intro number char inside
    have digit := Nat.isDigit_of_mem_toDigits (by decide) (by decide) inside
    have high := (Char.isDigit_iff_toNat.mp digit).2
    have nine : '9'.toNat = 57 := rfl
    have code : (UInt8.ofNat char.toNat).toNat = char.toNat :=
      UInt8.toNat_ofNat_of_lt (by change char.toNat < 256; omega)
    have zero : '0'.toNat = 48 := rfl
    rw [code, zero]
    ring
  rw [same, Nat.ofDigitChars_ten_toDigits]

end RpcRace.Library.Numeral
