import Mathlib.Tactic

/-!
# Big-endian numbers and fixed-width chunks

A wire format writes a number with a fixed count of bytes, most significant first.
`beBytes` are these bytes and `beValue` is the value of a string of bytes; the two are
inverse to one another within the width (`beValue_beBytes`, `beBytes_beValue`), so a reader
of the format gets back what its writer has written, and a writer gives back what its reader
has read.

The bytes are written from the last to the first, by division with remainder, so both
functions are analysed from the end of the list: `beValue_concat` is the step, and every
induction here appends the last byte rather than prepending the first.

An array of fixed-width numbers is the concatenation of its elements, and it is read by
cutting the bytes into pieces of one length.  `chunks` cuts them.  Where the length of the
list is a multiple of the width, cutting and joining are inverse to one another
(`flatten_chunks`, `chunks_flatten`), and each piece has the width (`length_of_mem_chunks`),
which is what the inverse law of one number asks for.
-/

namespace SecsRust

universe u

/-! ## One number -/

/-- The last `width` base-256 digits of a number, most significant first. -/
def beBytes : ℕ → ℕ → List UInt8
  | 0, _ => []
  | width + 1, n => beBytes width (n / 256) ++ [UInt8.ofNat n]

/-- The value of a string of bytes, most significant first. -/
def beValue (bytes : List UInt8) : ℕ :=
  bytes.foldl (fun value byte => value * 256 + byte.toNat) 0

@[simp] theorem length_beBytes (width n : ℕ) : (beBytes width n).length = width := by
  induction width generalizing n with
  | zero => rfl
  | succ width ih => rw [beBytes, List.length_append, ih, List.length_singleton]

@[simp] theorem beValue_nil : beValue [] = 0 := rfl

theorem beValue_concat (bytes : List UInt8) (byte : UInt8) :
    beValue (bytes ++ [byte]) = beValue bytes * 256 + byte.toNat := by
  rw [beValue, List.foldl_append]
  rfl

theorem beValue_lt (bytes : List UInt8) : beValue bytes < 256 ^ bytes.length := by
  induction bytes using List.reverseRecOn with
  | nil => decide
  | append_singleton bytes byte ih =>
    have hbyte := byte.toNat_lt
    rw [beValue_concat, List.length_append, List.length_singleton, Nat.pow_succ]
    omega

/-- Reading back a number that fits its width. -/
theorem beValue_beBytes {width n : ℕ} (h : n < 256 ^ width) : beValue (beBytes width n) = n := by
  induction width generalizing n with
  | zero =>
    rw [Nat.pow_zero] at h
    obtain rfl : n = 0 := by omega
    rfl
  | succ width ih =>
    have hquotient : n / 256 < 256 ^ width := by
      rw [Nat.pow_succ] at h
      omega
    have hbyte : (UInt8.ofNat n).toNat = n % 256 := UInt8.toNat_ofNat'
    rw [beBytes, beValue_concat, ih hquotient, hbyte]
    omega

/-- Writing back a string of bytes at its length. -/
theorem beBytes_beValue (bytes : List UInt8) : beBytes bytes.length (beValue bytes) = bytes := by
  induction bytes using List.reverseRecOn with
  | nil => rfl
  | append_singleton bytes byte ih =>
    have hbyte := byte.toNat_lt
    have hquotient : (beValue bytes * 256 + byte.toNat) / 256 = beValue bytes := by omega
    have hlast : UInt8.ofNat (beValue bytes * 256 + byte.toNat) = byte := by
      rw [← UInt8.toNat_inj, UInt8.toNat_ofNat']
      omega
    rw [beValue_concat, List.length_append, List.length_singleton, beBytes, hquotient, ih, hlast]

/-! ## Chunks -/

section

variable {α : Type u}

/-- The first `count` chunks of a list, each `width` long. -/
def chunks (width : ℕ) : ℕ → List α → List (List α)
  | 0, _ => []
  | count + 1, l => l.take width :: chunks width count (l.drop width)

@[simp] theorem length_chunks (width count : ℕ) (l : List α) :
    (chunks width count l).length = count := by
  induction count generalizing l with
  | zero => rfl
  | succ count ih => rw [chunks, List.length_cons, ih]

/-- The chunks of a list that they fill read the list. -/
theorem flatten_chunks {width count : ℕ} {l : List α} (h : l.length = count * width) :
    (chunks width count l).flatten = l := by
  induction count generalizing l with
  | zero =>
    rw [Nat.zero_mul] at h
    rw [List.length_eq_zero_iff.mp h]
    rfl
  | succ count ih =>
    have hrest : (l.drop width).length = count * width := by
      rw [List.length_drop, h, Nat.succ_mul, Nat.add_sub_cancel]
    rw [chunks, List.flatten_cons, ih hrest, List.take_append_drop]

/-- Every chunk of a list that they fill has the width. -/
theorem length_of_mem_chunks {width count : ℕ} {l : List α} (h : l.length = count * width) :
    ∀ chunk ∈ chunks width count l, chunk.length = width := by
  induction count generalizing l with
  | zero => rintro _ ⟨⟩
  | succ count ih =>
    have hrest : (l.drop width).length = count * width := by
      rw [List.length_drop, h, Nat.succ_mul, Nat.add_sub_cancel]
    intro chunk hchunk
    rcases List.mem_cons.mp hchunk with rfl | hchunk
    · rw [List.length_take, h, Nat.succ_mul]
      omega
    · exact ih hrest chunk hchunk

/-- Pieces of one width, joined and cut again. -/
theorem chunks_flatten {width : ℕ} {pieces : List (List α)}
    (h : ∀ piece ∈ pieces, piece.length = width) :
    chunks width pieces.length pieces.flatten = pieces := by
  induction pieces with
  | nil => rfl
  | cons piece pieces ih =>
    have hpiece := h piece List.mem_cons_self
    rw [List.length_cons, List.flatten_cons, chunks, ← hpiece, List.take_left, List.drop_left,
      hpiece, ih fun p hp => h p (List.mem_cons_of_mem _ hp)]

end

end SecsRust
