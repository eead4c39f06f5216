import SecsRust.Lib.BigEndian

/-!
# Fixed-width elements

The numeric formats differ in the type of their elements and in nothing else: each element
is written with `to_be_bytes` and read with `from_be_bytes`.  An `Element` is one such type
with its width and its bits, and with the proof that values and bit patterns of that width
correspond.  The eight types of the source are its instances, and the two float types use
those of their bits.

Elements survive the wire (`Element.read_write`), and an aligned body survives reading
(`Element.write_read`). Formats of one byte are written by the source without a conversion;
that this is the same is the last section.
-/

namespace SecsRust
namespace Secs2

/-- A numeric element type of fixed width.  The bits of a value and the value of bits are inverse
to each other, on exactly the numbers that the width can hold. -/
structure Element (α : Type) where
  width : ℕ
  toBits : α → ℕ
  ofBits : ℕ → α
  width_pos : 0 < width
  toBits_lt : ∀ v, toBits v < 256 ^ width
  ofBits_toBits : ∀ v, ofBits (toBits v) = v
  toBits_ofBits : ∀ n, n < 256 ^ width → toBits (ofBits n) = n

namespace Element

/-- `u64`, and `f64` by its bits. -/
def u64 : Element UInt64 where
  width := 8
  toBits := UInt64.toNat
  ofBits := UInt64.ofNat
  width_pos := by decide
  toBits_lt := UInt64.toNat_lt
  ofBits_toBits _ := UInt64.ofNat_toNat
  toBits_ofBits _ h := UInt64.toNat_ofNat_of_lt' h

/-- `u32`, and `f32` by its bits. -/
def u32 : Element UInt32 where
  width := 4
  toBits := UInt32.toNat
  ofBits := UInt32.ofNat
  width_pos := by decide
  toBits_lt := UInt32.toNat_lt
  ofBits_toBits _ := UInt32.ofNat_toNat
  toBits_ofBits _ h := UInt32.toNat_ofNat_of_lt' h

/-- `u16`, in two bytes. -/
def u16 : Element UInt16 where
  width := 2
  toBits := UInt16.toNat
  ofBits := UInt16.ofNat
  width_pos := by decide
  toBits_lt := UInt16.toNat_lt
  ofBits_toBits _ := UInt16.ofNat_toNat
  toBits_ofBits _ h := UInt16.toNat_ofNat_of_lt' h

/-- `u8`, which is its own byte. -/
def u8 : Element UInt8 where
  width := 1
  toBits := UInt8.toNat
  ofBits := UInt8.ofNat
  width_pos := by decide
  toBits_lt := UInt8.toNat_lt
  ofBits_toBits _ := UInt8.ofNat_toNat
  toBits_ofBits _ h := UInt8.toNat_ofNat_of_lt' h

/-- `i64`, in two's complement. -/
def i64 : Element Int64 where
  width := 8
  toBits v := v.toUInt64.toNat
  ofBits n := (UInt64.ofNat n).toInt64
  width_pos := by decide
  toBits_lt v := v.toUInt64.toNat_lt
  ofBits_toBits v := by rw [UInt64.ofNat_toNat, Int64.toInt64_toUInt64]
  toBits_ofBits n h := by rw [UInt64.toUInt64_toInt64]; exact UInt64.toNat_ofNat_of_lt' h

/-- `i32`, in two's complement. -/
def i32 : Element Int32 where
  width := 4
  toBits v := v.toUInt32.toNat
  ofBits n := (UInt32.ofNat n).toInt32
  width_pos := by decide
  toBits_lt v := v.toUInt32.toNat_lt
  ofBits_toBits v := by rw [UInt32.ofNat_toNat, Int32.toInt32_toUInt32]
  toBits_ofBits n h := by rw [UInt32.toUInt32_toInt32]; exact UInt32.toNat_ofNat_of_lt' h

/-- `i16`, in two's complement. -/
def i16 : Element Int16 where
  width := 2
  toBits v := v.toUInt16.toNat
  ofBits n := (UInt16.ofNat n).toInt16
  width_pos := by decide
  toBits_lt v := v.toUInt16.toNat_lt
  ofBits_toBits v := by rw [UInt16.ofNat_toNat, Int16.toInt16_toUInt16]
  toBits_ofBits n h := by rw [UInt16.toUInt16_toInt16]; exact UInt16.toNat_ofNat_of_lt' h

/-- `i8`, whose byte is its two's complement. -/
def i8 : Element Int8 where
  width := 1
  toBits v := v.toUInt8.toNat
  ofBits n := (UInt8.ofNat n).toInt8
  width_pos := by decide
  toBits_lt v := v.toUInt8.toNat_lt
  ofBits_toBits v := by rw [UInt8.ofNat_toNat, Int8.toInt8_toUInt8]
  toBits_ofBits n h := by rw [UInt8.toUInt8_toInt8]; exact UInt8.toNat_ofNat_of_lt' h

section

variable {α : Type} (e : Element α)

/-- `to_be_bytes`: the bits of the value, most significant byte first.  There are always as many
bytes as the width says. -/
def toBeBytes (v : α) : List UInt8 := beBytes e.width (e.toBits v)

/-- `from_be_bytes`: the value of these bits.  On as many bytes as the width says it undoes
`toBeBytes`. -/
def fromBeBytes (bytes : List UInt8) : α := e.ofBits (beValue bytes)

/-- The elements one after another.  There is no separator; the length of the whole says how many
they are. -/
def write (values : List α) : List UInt8 := values.flatMap e.toBeBytes

/-- The elements of the chunks of a body.  What is left over where the body is not aligned would
be dropped; the decoder refuses such a body before. -/
def read (body : List UInt8) : List α :=
  (chunks e.width (body.length / e.width) body).map e.fromBeBytes

variable {e}

theorem length_toBeBytes (v : α) : (e.toBeBytes v).length = e.width := length_beBytes _ _

theorem fromBeBytes_toBeBytes (v : α) : e.fromBeBytes (e.toBeBytes v) = v := by
  rw [fromBeBytes, toBeBytes, beValue_beBytes (e.toBits_lt v), e.ofBits_toBits]

theorem toBeBytes_fromBeBytes {bytes : List UInt8} (h : bytes.length = e.width) :
    e.toBeBytes (e.fromBeBytes bytes) = bytes := by
  have hlt : beValue bytes < 256 ^ e.width := h ▸ beValue_lt bytes
  rw [fromBeBytes, toBeBytes, e.toBits_ofBits _ hlt, ← h, beBytes_beValue]

theorem length_write (values : List α) : (e.write values).length = values.length * e.width := by
  induction values with
  | nil => rw [List.length_nil, Nat.zero_mul]; rfl
  | cons v values ih =>
    have hcons : e.write (v :: values) = e.toBeBytes v ++ e.write values := List.flatMap_cons
    rw [hcons, List.length_append, length_toBeBytes, ih, List.length_cons, Nat.succ_mul,
      Nat.add_comm]

/-- **Elements survive the wire.**  What the encoder has written for a list of numbers is read as
the same list. -/
theorem read_write (values : List α) : e.read (e.write values) = values := by
  have hpieces : ∀ piece ∈ values.map e.toBeBytes, piece.length = e.width := by
    intro piece hpiece
    obtain ⟨v, -, rfl⟩ := List.mem_map.mp hpiece
    exact length_toBeBytes v
  have hcount : (e.write values).length / e.width = (values.map e.toBeBytes).length := by
    rw [length_write, Nat.mul_div_cancel _ e.width_pos, List.length_map]
  have hflat : e.write values = (values.map e.toBeBytes).flatten := List.flatMap_def
  rw [read, hcount, hflat, chunks_flatten hpieces, List.map_map]
  exact (List.map_congr_left fun v _ => fromBeBytes_toBeBytes v).trans (List.map_id' values)

/-- **An aligned body survives reading.**  So that an aligned body is the wire form of one list
of elements and of no other. -/
theorem write_read {body : List UInt8} (h : body.length % e.width = 0) :
    e.write (e.read body) = body := by
  have hlength : body.length = body.length / e.width * e.width := by
    rw [Nat.div_mul_cancel (Nat.dvd_of_mod_eq_zero h)]
  have hback : ((chunks e.width (body.length / e.width) body).map e.fromBeBytes).map e.toBeBytes =
      chunks e.width (body.length / e.width) body := by
    rw [List.map_map]
    refine (List.map_congr_left fun chunk hchunk => ?_).trans (List.map_id' _)
    exact toBeBytes_fromBeBytes (length_of_mem_chunks hlength chunk hchunk)
  rw [write, List.flatMap_def, read, hback, flatten_chunks hlength]

/-- A written body is aligned. -/
theorem length_write_mod (values : List α) : (e.write values).length % e.width = 0 := by
  rw [length_write, Nat.mul_mod_left]

/-- Single-byte elements are their bytes. -/
theorem write_of_width_one {byte : α → UInt8} (hwidth : e.width = 1)
    (hbyte : ∀ v, e.toBits v = (byte v).toNat) (values : List α) :
    e.write values = values.map byte := by
  induction values with
  | nil => rfl
  | cons v values ih =>
    have hone : e.toBeBytes v = [byte v] := by
      rw [toBeBytes, hwidth, hbyte, beBytes, UInt8.ofNat_toNat]
      rfl
    have hcons : e.write (v :: values) = e.toBeBytes v ++ e.write values := List.flatMap_cons
    rw [hcons, hone, ih]
    rfl

end

/-! ## Single bytes -/

theorem write_i8 (values : List Int8) : i8.write values = values.map Int8.toUInt8 :=
  write_of_width_one rfl (fun _ => rfl) values

theorem write_u8 (values : List UInt8) : u8.write values = values :=
  (write_of_width_one rfl (fun _ => rfl) values).trans (List.map_id' values)

theorem read_i8 (body : List UInt8) : i8.read body = body.map UInt8.toInt8 := by
  have hback : i8.write (body.map UInt8.toInt8) = body := by
    rw [write_i8, List.map_map]
    exact (List.map_congr_left fun byte _ => UInt8.toUInt8_toInt8 byte).trans (List.map_id' body)
  have hread := read_write (e := i8) (body.map UInt8.toInt8)
  rwa [hback] at hread

theorem read_u8 (body : List UInt8) : u8.read body = body := by
  have hread := read_write (e := u8) body
  rwa [write_u8] at hread

end Element

end Secs2
end SecsRust
