import Mathlib.Tactic

/-!
# Sizes and decoder limits

`secs2/limits.rs`, with the checked arithmetic of `usize` that the codec and the SML parser
use.  A `usize` is a natural number here, and every operation of the source that can
overflow is written with the check that the source makes.

How large a `usize` is depends on the target.  A `Target` is its largest value, with the
proof that it has at least 32 bits, and whatever the claims make depend on the target takes
one as an argument.  Everything else is on 64-bit targets, where the checked operations have
short forms of their own.

Four limits bound what a decoder accepts.  `DecodeLimits` are limits that have passed
`validate`, so they are positive and within the bounds of the format; `LimitValues` are the
same without what depends on the target, for decoders on other targets.
-/

namespace SecsRust
namespace Secs2

/-! ## `usize` -/

/-- `usize::MAX` on a 64-bit target. -/
def usizeMax : ℕ := 2 ^ 64 - 1

/-- `u32::MAX`. -/
def u32Max : ℕ := 2 ^ 32 - 1

/-- A compilation target: `usize::MAX`, for a `usize` of at least 32 bits.  What takes a target as
its last argument takes `Target.sixtyFour` where none is named, and what takes none is meant for it.
-/
structure Target where
  usizeMax : ℕ
  wide : u32Max ≤ usizeMax

namespace Target

/-- 64-bit targets. -/
def sixtyFour : Target := ⟨Secs2.usizeMax, by decide⟩

/-- 32-bit targets. -/
def thirtyTwo : Target := ⟨u32Max, le_refl _⟩

/-- `usize::checked_add`: no sum passes the largest value of the target. -/
def checkedAdd (target : Target) (a b : ℕ) : Option ℕ :=
  if a + b ≤ target.usizeMax then some (a + b) else none

/-- `usize::checked_shl`: a shift by less than the bits of a `usize`, which loses what it shifts
out. -/
def checkedShl (target : Target) (a shift : ℕ) : Option ℕ :=
  if 2 ^ shift ≤ target.usizeMax then some ((a <<< shift) % (target.usizeMax + 1)) else none

/-- `isize::MAX`, which bounds the length of every byte slice. -/
def isizeMax (target : Target) : ℕ := target.usizeMax / 2

/-- `Semaphore::MAX_PERMITS`: a semaphore keeps three bits of its `usize` for itself. -/
def maxPermits (target : Target) : ℕ := target.usizeMax / 8

variable {target : Target} {a b c : ℕ}

theorem checkedAdd_of_fits (h : a + b ≤ target.usizeMax) : target.checkedAdd a b = some (a + b) :=
  if_pos h

theorem checkedAdd_of_le (h : a + b ≤ u32Max) : target.checkedAdd a b = some (a + b) :=
  checkedAdd_of_fits (h.trans target.wide)

theorem checkedAdd_eq_some_iff :
    target.checkedAdd a b = some c ↔ a + b ≤ target.usizeMax ∧ c = a + b := by
  rw [checkedAdd, Option.ite_none_right_eq_some, Option.some.injEq, eq_comm]

theorem checkedAdd_eq_some (h : target.checkedAdd a b = some c) : c = a + b :=
  (checkedAdd_eq_some_iff.mp h).2

theorem checkedAdd_eq_none : target.checkedAdd a b = none ↔ target.usizeMax < a + b := by
  unfold checkedAdd
  split <;> simp <;> omega

/-- A portable capacity is a number of permits. -/
theorem le_maxPermits (h : a ≤ 2 ^ 28) : a ≤ target.maxPermits := by
  have hwide := target.wide
  unfold u32Max at hwide
  unfold maxPermits
  omega

end Target

/-- `usize::checked_add` on 64-bit targets. -/
def checkedAdd (a b : ℕ) : Option ℕ := Target.sixtyFour.checkedAdd a b

/-- `usize::checked_mul` on 64-bit targets. -/
def checkedMul (a b : ℕ) : Option ℕ := if a * b ≤ usizeMax then some (a * b) else none

/-- `usize::saturating_add` on 64-bit targets. -/
def saturatingAdd (a b : ℕ) : ℕ := min (a + b) usizeMax

/-- `usize::saturating_mul` on 64-bit targets. -/
def saturatingMul (a b : ℕ) : ℕ := min (a * b) usizeMax

theorem checkedAdd_of_le {a b : ℕ} (h : a + b ≤ usizeMax) : checkedAdd a b = some (a + b) :=
  Target.checkedAdd_of_fits h

theorem checkedAdd_eq_some {a b c : ℕ} :
    checkedAdd a b = some c ↔ a + b ≤ usizeMax ∧ c = a + b := Target.checkedAdd_eq_some_iff

theorem checkedAdd_eq_none {a b : ℕ} : checkedAdd a b = none ↔ usizeMax < a + b :=
  Target.checkedAdd_eq_none

/-- A byte slice: its length is a `usize`.  On the target itself a slice is even shorter, since
no object passes `isize::MAX` bytes. -/
structure ByteSlice where
  bytes : List UInt8
  addressable : bytes.length ≤ usizeMax

/-! ## Limits -/

/-- `MAX_ENCODED_ITEM_LENGTH`: what three length bytes can declare.  An item whose payload is
longer, or a List of more children, has no wire form. -/
def maxEncodedItemLength : ℕ := 0x00FFFFFF

/-- `MAX_DECODE_NESTING_DEPTH`: no limit allows deeper Lists.  The decoder keeps one frame for
each open List, so this bounds its stack. -/
def maxDecodeNestingDepth : ℕ := 256

/-- `SecsItemError`: the errors of limits and of value objects. -/
inductive SecsItemError where
  | nonAscii (index : ℕ) (byte : UInt8)
  | zeroLimit (field : String)
  | itemLengthTooLarge (value maximum : ℕ)
  | depthLimitTooLarge (value maximum : ℕ)
  | reservedLocalizedEncodingCode
  deriving DecidableEq

/-- `DecodeLimits::validate`, on the four fields in their order.  The first field that is out of
range is the one that the error names. -/
def validateLimits (maxDepth maxTotalItems maxItemBytes maxListItems : ℕ) :
    Except SecsItemError Unit :=
  if maxDepth = 0 then .error (.zeroLimit "max_depth")
  else if maxTotalItems = 0 then .error (.zeroLimit "max_total_items")
  else if maxItemBytes = 0 then .error (.zeroLimit "max_item_bytes")
  else if maxListItems = 0 then .error (.zeroLimit "max_list_items")
  else if maxDepth > maxDecodeNestingDepth then
    .error (.depthLimitTooLarge maxDepth maxDecodeNestingDepth)
  else if maxItemBytes > maxEncodedItemLength then
    .error (.itemLengthTooLarge maxItemBytes maxEncodedItemLength)
  else .ok ()

/-- The four limits of `DecodeLimits`, which have passed `validate`, on whatever target. -/
structure LimitValues where
  maxDepth : ℕ
  maxTotalItems : ℕ
  maxItemBytes : ℕ
  maxListItems : ℕ
  valid : validateLimits maxDepth maxTotalItems maxItemBytes maxListItems = .ok ()

/-- `DecodeLimits`: four limits that have passed `validate`.  No other limits reach a decoder or
a parser, so neither checks them again. -/
structure DecodeLimits where
  maxDepth : ℕ
  maxTotalItems : ℕ
  maxItemBytes : ℕ
  maxListItems : ℕ
  valid : validateLimits maxDepth maxTotalItems maxItemBytes maxListItems = .ok ()
  total_addressable : maxTotalItems ≤ usizeMax
  list_addressable : maxListItems ≤ usizeMax

/-- The values of limits. -/
def DecodeLimits.values (limits : DecodeLimits) : LimitValues where
  maxDepth := limits.maxDepth
  maxTotalItems := limits.maxTotalItems
  maxItemBytes := limits.maxItemBytes
  maxListItems := limits.maxListItems
  valid := limits.valid

theorem validateLimits_eq_ok {maxDepth maxTotalItems maxItemBytes maxListItems : ℕ} :
    validateLimits maxDepth maxTotalItems maxItemBytes maxListItems = .ok () ↔
      0 < maxDepth ∧ 0 < maxTotalItems ∧ 0 < maxItemBytes ∧ 0 < maxListItems ∧
        maxDepth ≤ maxDecodeNestingDepth ∧ maxItemBytes ≤ maxEncodedItemLength := by
  unfold validateLimits
  split_ifs <;> simp <;> omega

theorem LimitValues.depth_le (limits : LimitValues) : limits.maxDepth ≤ maxDecodeNestingDepth :=
  (validateLimits_eq_ok.mp limits.valid).2.2.2.2.1

theorem DecodeLimits.bytes_le (limits : DecodeLimits) :
    limits.maxItemBytes ≤ maxEncodedItemLength :=
  (validateLimits_eq_ok.mp limits.valid).2.2.2.2.2

/-- `DecodeLimits::default`, which passes its own check. -/
def DecodeLimits.default : DecodeLimits where
  maxDepth := 64
  maxTotalItems := 1000000
  maxItemBytes := maxEncodedItemLength
  maxListItems := 1000000
  valid := by decide
  total_addressable := by decide
  list_addressable := by decide

end Secs2
end SecsRust
