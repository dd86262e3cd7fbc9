import RpcRace.Library.CString

/-!
# Hexadecimal text

`hex_encode` and `hex_decode` of `util.c`.  Encoding writes lower-case digits;
decoding takes both cases, so it undoes the encoding, and the encoding of what
it returns is the text in lower case.
-/

namespace RpcRace.HexText

open RpcRace.Library.CString

/-- `hex_chars`. -/
def hexChars : Memory :=
  ascii "0123456789abcdef"

/-- The digit of a half byte. -/
def hexDigit (value : Nat) : Byte :=
  hexChars.getD value 0

/-- The two digits of a byte, the upper half first. -/
def hexPair (byte : Byte) : Memory :=
  [hexDigit (byte.toNat / 16), hexDigit (byte.toNat % 16)]

/-- `hex_encode`. -/
def hexEncode (bytes : Memory) : Memory :=
  bytes.flatMap hexPair

/-- `hex_char_val`; `none` is the result `-1`. -/
def hexCharVal (char : Byte) : Option Nat :=
  if 48 ≤ char ∧ char ≤ 57 then some (char.toNat - 48)
  else if 97 ≤ char ∧ char ≤ 102 then some (char.toNat - 97 + 10)
  else if 65 ≤ char ∧ char ≤ 70 then some (char.toNat - 65 + 10)
  else none

/-- The loop of `hex_decode`, two digits at a time. -/
def decodePairs : Memory → Option Memory
  | [] => some []
  | [_] => none
  | high :: low :: rest => do
      let highValue ← hexCharVal high
      let lowValue ← hexCharVal low
      let bytes ← decodePairs rest
      some (UInt8.ofNat (highValue * 16 + lowValue) :: bytes)

/-- `hex_decode`; `none` is the result `-1`. -/
def hexDecode (text : Memory) : Option Memory :=
  if text.length = 0 ∨ text.length % 2 ≠ 0 then none else decodePairs text

/-! ## Digits -/

theorem hexCharVal_hexDigit {value : Nat} (small : value < 16) :
    hexCharVal (hexDigit value) = some value := by
  have all : ∀ value : Fin 16, hexCharVal (hexDigit value) = some value.val := by
    decide
  exact all ⟨value, small⟩

/-- A digit is read as a half byte, which is written in lower case. -/
theorem hexCharVal_spec (char : Byte) :
    (hexCharVal char).isSome = true →
      ∃ value < 16, hexCharVal char = some value ∧ hexDigit value = toLower char := by
  revert char
  apply forall_byte
  decide +kernel

theorem hexDigit_of_hexCharVal {char : Byte} {value : Nat} (read : hexCharVal char = some value) :
    value < 16 ∧ hexDigit value = toLower char := by
  rcases hexCharVal_spec char (by rw [read]; rfl) with ⟨other, small, same, digit⟩
  obtain rfl : value = other := Option.some.inj (read.symm.trans same)
  exact ⟨small, digit⟩

/-! ## Texts -/

@[simp]
theorem length_hexEncode (bytes : Memory) : (hexEncode bytes).length = 2 * bytes.length := by
  induction bytes with
  | nil => rfl
  | cons byte rest induction =>
      change (hexPair byte ++ hexEncode rest).length = _
      rw [List.length_append, induction, List.length_cons]
      change 2 + 2 * rest.length = _
      omega

theorem decodePairs_cons {high low : Byte} {highValue lowValue : Nat} {rest bytes : Memory}
    (highRead : hexCharVal high = some highValue) (lowRead : hexCharVal low = some lowValue)
    (later : decodePairs rest = some bytes) :
    decodePairs (high :: low :: rest) =
      some (UInt8.ofNat (highValue * 16 + lowValue) :: bytes) := by
  rw [decodePairs, highRead, lowRead, later]
  rfl

theorem decodePairs_hexEncode (bytes : Memory) : decodePairs (hexEncode bytes) = some bytes := by
  induction bytes with
  | nil => rfl
  | cons byte rest induction =>
      have bound := byte.toNat_lt
      have high : hexCharVal (hexDigit (byte.toNat / 16)) = some (byte.toNat / 16) :=
        hexCharVal_hexDigit (by omega)
      have low : hexCharVal (hexDigit (byte.toNat % 16)) = some (byte.toNat % 16) :=
        hexCharVal_hexDigit (by omega)
      have whole : byte.toNat / 16 * 16 + byte.toNat % 16 = byte.toNat := by omega
      have decoded := decodePairs_cons high low induction
      rwa [whole, UInt8.ofNat_toNat] at decoded

/-- The encoding consists of lower-case digits. -/
theorem mem_hexChars_of_mem {bytes : Memory} {char : Byte} (member : char ∈ hexEncode bytes) :
    char ∈ hexChars := by
  have digit : ∀ value < 16, hexDigit value ∈ hexChars := by decide
  rw [hexEncode, List.mem_flatMap] at member
  rcases member with ⟨byte, -, member⟩
  have bound := byte.toNat_lt
  simp only [hexPair, List.mem_cons, List.not_mem_nil, or_false] at member
  rcases member with rfl | rfl
  · exact digit _ (by omega)
  · exact digit _ (by omega)

/-- Decoding undoes encoding. -/
theorem hexDecode_hexEncode {bytes : Memory} (nonempty : bytes ≠ []) :
    hexDecode (hexEncode bytes) = some bytes := by
  have even : ¬ ((hexEncode bytes).length = 0 ∨ (hexEncode bytes).length % 2 ≠ 0) := by
    have positive := List.length_pos_of_ne_nil nonempty
    rw [length_hexEncode]
    omega
  rw [hexDecode, if_neg even, decodePairs_hexEncode]

/-- What was decoded is written back in lower case. -/
theorem hexEncode_of_decodePairs {text bytes : Memory} (decoded : decodePairs text = some bytes) :
    hexEncode bytes = text.map toLower := by
  induction text using decodePairs.induct generalizing bytes with
  | case1 =>
      cases decoded
      rfl
  | case2 char => simp [decodePairs] at decoded
  | case3 high low rest induction =>
      simp only [decodePairs, Option.bind_eq_bind, Option.bind_eq_some_iff, Option.some.injEq]
        at decoded
      rcases decoded with ⟨highValue, highRead, lowValue, lowRead, others, later, rfl⟩
      rcases hexDigit_of_hexCharVal highRead with ⟨highSmall, highDigit⟩
      rcases hexDigit_of_hexCharVal lowRead with ⟨lowSmall, lowDigit⟩
      have number : (UInt8.ofNat (highValue * 16 + lowValue)).toNat =
          highValue * 16 + lowValue := by
        apply UInt8.toNat_ofNat_of_lt
        change _ < 256
        omega
      have halves : (highValue * 16 + lowValue) / 16 = highValue ∧
          (highValue * 16 + lowValue) % 16 = lowValue := by
        omega
      change hexPair _ ++ hexEncode others = _
      rw [induction later, hexPair, number, halves.1, halves.2, highDigit, lowDigit]
      rfl

/-- Digits in pairs are all it takes to decode. -/
theorem decodePairs_of_digits {text : Memory} (even : text.length % 2 = 0)
    (digits : ∀ char ∈ text, (hexCharVal char).isSome = true) :
    ∃ bytes, decodePairs text = some bytes := by
  induction text using decodePairs.induct with
  | case1 => exact ⟨[], rfl⟩
  | case2 char => simp at even
  | case3 high low rest induction =>
      simp only [List.forall_mem_cons] at digits
      rcases digits with ⟨highDigit, lowDigit, others⟩
      rcases Option.isSome_iff_exists.mp highDigit with ⟨highValue, highRead⟩
      rcases Option.isSome_iff_exists.mp lowDigit with ⟨lowValue, lowRead⟩
      simp only [List.length_cons] at even
      rcases induction (by omega) others with ⟨bytes, later⟩
      exact ⟨_, decodePairs_cons highRead lowRead later⟩

theorem length_of_hexDecode {text bytes : Memory} (decoded : hexDecode text = some bytes) :
    text.length = 2 * bytes.length := by
  unfold hexDecode at decoded
  split_ifs at decoded
  have lengths := congrArg List.length (hexEncode_of_decodePairs decoded)
  rw [length_hexEncode, List.length_map] at lengths
  exact lengths.symm

end RpcRace.HexText
