import Mathlib.Data.Nat.Notation

/-!
# SECS-II items and message identifiers

The values of `secs2/item.rs` and `secs2/message.rs` that every other layer carries: the
item tree, the seven-bit stream, the eight-bit function, and the owned content of a
Primary.  The value objects carry the condition that their constructors check: the bytes of
an `AsciiString` are seven-bit, an encoding code is not zero.

Floating-point payloads are kept as their IEEE-754 bit patterns, so that equality of items
is equality of what goes over the wire: two patterns of a NaN are two values, and the two
zeros differ.
-/

namespace SecsRust
namespace Secs2

/-- `AsciiString`: a byte string whose bytes are all seven-bit.  The condition is a field, so
that no decoder, parser or encoder has to prove it again. -/
structure AsciiString where
  bytes : List UInt8
  ascii : ∀ b ∈ bytes, b < 128
  deriving DecidableEq

/-- `is_ascii` of a byte string. -/
def allAscii (bytes : List UInt8) : Bool := bytes.all fun byte => byte < 128

theorem allAscii_iff {bytes : List UInt8} : allAscii bytes = true ↔ ∀ byte ∈ bytes, byte < 128 := by
  simp only [allAscii, List.all_eq_true, decide_eq_true_iff]

theorem ascii_of_allAscii {bytes : List UInt8} (h : allAscii bytes = true) :
    ∀ byte ∈ bytes, byte < 128 := allAscii_iff.mp h

/-- `LocalizedEncodingCode`: a non-zero 16-bit LSH encoding code.  Zero is reserved by the
standard, and a value of this type is never zero. -/
structure LocalizedEncodingCode where
  raw : UInt16
  nonzero : raw ≠ 0
  deriving DecidableEq

/-- `LocalizedString`: an encoding code with its uninterpreted payload. -/
structure LocalizedString where
  encoding : LocalizedEncodingCode
  bytes : List UInt8
  deriving DecidableEq

/-- `SecsItem`: one typed SECS-II item.  `f8` and `f4` hold bit patterns.  The constructors are
the formats of the standard, with the elements as Lean has them. -/
inductive SecsItem where
  | list (items : List SecsItem)
  | binary (bytes : List UInt8)
  | boolean (values : List Bool)
  | ascii (text : AsciiString)
  | jis8 (bytes : List UInt8)
  | localized (text : LocalizedString)
  | i8 (values : List Int64)
  | i1 (values : List Int8)
  | i2 (values : List Int16)
  | i4 (values : List Int32)
  | f8 (bits : List UInt64)
  | f4 (bits : List UInt32)
  | u8 (values : List UInt64)
  | u1 (values : List UInt8)
  | u2 (values : List UInt16)
  | u4 (values : List UInt32)

/-- `Stream`: a seven-bit SECS stream. -/
structure Stream where
  raw : UInt8
  seven_bit : raw ≤ 127
  deriving DecidableEq

/-- `Function`: a SECS function, including the F0 abort code. -/
structure Function where
  raw : UInt8
  deriving DecidableEq

/-- `PrimaryMessage`: the application-owned content of an outbound Primary.  It has no System
Bytes and no wait bit; these belong to the transaction that sends it. -/
structure PrimaryMessage where
  stream : Stream
  function : Function
  body : Option SecsItem

end Secs2
end SecsRust
