import SecsRust.Secs2.Limits

/-!
# Item headers

`secs2/codec/header.rs`: the sixteen format codes, the number of length bytes, and the
format byte that carries both.  A format code has six bits and the count two, so a format
byte is decoded to at most one pair, and to none where the code has no format or the count
is zero.
-/

namespace SecsRust
namespace Secs2

/-- `FormatCode`: the formats of the standard.  No other value can be built.  Sixteen of the
sixty-four six-bit numbers that a format byte can carry are formats here. -/
inductive FormatCode where
  | list
  | binary
  | boolean
  | ascii
  | jis8
  | localized
  | i8
  | i1
  | i2
  | i4
  | f8
  | f4
  | u8
  | u1
  | u2
  | u4
  deriving DecidableEq

namespace FormatCode

/-- `six_bit_value`: the number of a format, in octal as the standard has it. -/
def sixBitValue : FormatCode → UInt8
  | list => 0o00
  | binary => 0o10
  | boolean => 0o11
  | ascii => 0o20
  | jis8 => 0o21
  | localized => 0o22
  | i8 => 0o30
  | i1 => 0o31
  | i2 => 0o32
  | i4 => 0o34
  | f8 => 0o40
  | f4 => 0o44
  | u8 => 0o50
  | u1 => 0o51
  | u2 => 0o52
  | u4 => 0o54

/-- `from_six_bit`: the format of a number, if there is one. -/
def fromSixBit (sixBit : UInt8) : Option FormatCode :=
  if sixBit > 0b00111111 then none
  else if sixBit = 0o00 then some list
  else if sixBit = 0o10 then some binary
  else if sixBit = 0o11 then some boolean
  else if sixBit = 0o20 then some ascii
  else if sixBit = 0o21 then some jis8
  else if sixBit = 0o22 then some localized
  else if sixBit = 0o30 then some i8
  else if sixBit = 0o31 then some i1
  else if sixBit = 0o32 then some i2
  else if sixBit = 0o34 then some i4
  else if sixBit = 0o40 then some f8
  else if sixBit = 0o44 then some f4
  else if sixBit = 0o50 then some u8
  else if sixBit = 0o51 then some u1
  else if sixBit = 0o52 then some u2
  else if sixBit = 0o54 then some u4
  else none

/-- `element_width`: the bytes of one element of a numeric format. -/
def elementWidth : FormatCode → Option ℕ
  | i8 | f8 | u8 => some 8
  | i4 | f4 | u4 => some 4
  | i2 | u2 => some 2
  | i1 | u1 => some 1
  | list | binary | boolean | ascii | jis8 | localized => none

/-- The code is recovered from its six-bit value. -/
@[simp] theorem fromSixBit_sixBitValue (code : FormatCode) :
    fromSixBit code.sixBitValue = some code := by
  cases code <;> rfl

set_option maxRecDepth 4000 in
/-- No other value yields the code. -/
theorem sixBitValue_of_fromSixBit {sixBit : UInt8} {code : FormatCode}
    (h : fromSixBit sixBit = some code) : sixBit = code.sixBitValue := by
  cases sixBit with
  | ofBitVec bits =>
    cases bits with
    | ofFin value =>
      revert value
      cases code <;> decide

end FormatCode

/-- `LengthByteCount`: a header has one, two or three length bytes. -/
inductive LengthByteCount where
  | one
  | two
  | three
  deriving DecidableEq

namespace LengthByteCount

/-- `as_count`: how many length bytes these are. -/
def asCount : LengthByteCount → ℕ
  | one => 1
  | two => 2
  | three => 3

/-- `from_low_bits`: the count in the two low bits of a format byte; zero is none. -/
def fromLowBits (lowBits : UInt8) : Option LengthByteCount :=
  if lowBits &&& 0b00000011 = 1 then some one
  else if lowBits &&& 0b00000011 = 2 then some two
  else if lowBits &&& 0b00000011 = 3 then some three
  else none

/-- `for_declared_length`: the smallest count that can represent the length.  A length beyond
three bytes has no count, which is the error of the encoder. -/
def forDeclaredLength (declaredLength : ℕ) : Option LengthByteCount :=
  if declaredLength ≤ 0xFF then some one
  else if declaredLength ≤ 0xFFFF then some two
  else if declaredLength ≤ maxEncodedItemLength then some three
  else none

/-- `format_byte`: the format in the six high bits, the count in the two low ones.  Both can be
read off the byte again, and no two pairs have the same byte. -/
def formatByte (count : LengthByteCount) (code : FormatCode) : UInt8 :=
  (code.sixBitValue <<< 2) ||| (UInt8.ofNat count.asCount &&& 0b00000011)

theorem asCount_pos (count : LengthByteCount) : 0 < count.asCount := by
  cases count <;> decide

set_option maxRecDepth 4000 in
/-- A byte is made of its upper six bits and its lower two. -/
theorem shift_or_low (byte : UInt8) : byte = ((byte >>> 2) <<< 2) ||| (byte &&& 0b00000011) := by
  cases byte with
  | ofBitVec bits =>
    cases bits with
    | ofFin value =>
      revert value
      decide

/-- A format byte carries its code and its count.  Read from left to right it is how the decoder
takes the byte apart; from right to left how the encoder makes it. -/
theorem formatByte_eq_iff {byte : UInt8} {count : LengthByteCount} {code : FormatCode} :
    byte = count.formatByte code ↔
      FormatCode.fromSixBit (byte >>> 2) = some code ∧
        fromLowBits (byte &&& 0b00000011) = some count := by
  constructor
  · rintro rfl
    cases code <;> cases count <;> decide
  · rintro ⟨hcode, hcount⟩
    have hcode := FormatCode.sixBitValue_of_fromSixBit hcode
    have hlow : byte &&& 0b00000011 = UInt8.ofNat count.asCount := by
      unfold fromLowBits at hcount
      rw [UInt8.and_assoc] at hcount
      split_ifs at hcount with h1 h2 h3
      all_goals
        obtain rfl := Option.some.inj hcount
        assumption
    rw [shift_or_low byte, hcode, hlow, formatByte]
    cases count <;> rfl

/-- The count chosen for a length is the smallest that can represent it. -/
theorem forDeclaredLength_eq_some {length : ℕ} {count : LengthByteCount} :
    forDeclaredLength length = some count ↔
      length < 256 ^ count.asCount ∧ ∀ other : LengthByteCount, length < 256 ^ other.asCount →
        count.asCount ≤ other.asCount := by
  have hbound : maxEncodedItemLength = 16777215 := rfl
  unfold forDeclaredLength
  constructor
  · intro h
    split_ifs at h with h1 h2 h3
    all_goals
      obtain rfl := Option.some.inj h
      refine ⟨by simp only [asCount]; omega, fun other hother => ?_⟩
      cases other <;> simp only [asCount] at hother ⊢ <;> omega
  · rintro ⟨hfits, hleast⟩
    have h1 := hleast one
    have h2 := hleast two
    cases count <;> simp only [asCount] at hfits h1 h2 ⊢ <;> split_ifs <;> first | rfl | omega

end LengthByteCount

end Secs2
end SecsRust
