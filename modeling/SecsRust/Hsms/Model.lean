import Mathlib.Order.Basic
import Mathlib.Tactic

/-!
# Identifiers, logical time and terminal facts

The values of `hsms/model/ids.rs`, `hsms/model/runtime.rs` and the timer policy of
`hsms/config.rs`.

Identifiers are distinct types even where their numbers coincide, and each is ordered by its
number, which is the order in which a `BTreeMap` visits it.  A space of identifiers advances
by a checked addition (`u64CheckedSucc`) and never wraps, so that an identity is used once;
a space that is used up says so by a missing successor.

Logical time is a `Duration` since the generation's epoch.  A Rust `Duration` holds a `u64`
of seconds and a nanosecond part below `10^9`, so it is a number of nanoseconds up to a
fixed maximum, and `checked_add` fails exactly when the sum passes that maximum.  Times are
a linear order by their nanoseconds, and no other fact about the representation is used.

The terminal facts are what a transport reports about a write, and why a generation closes;
both are plain enumerations that every layer shares.
-/

namespace SecsRust
namespace Hsms

open Std

/-! ## Identifiers -/

/-- The `u64` identifiers generated by `internal_id!`, and the reply capability. -/
inductive IdKind where
  | command
  | write
  | replyCapability
  deriving DecidableEq

/-- One monotonic `u64` identifier of a given kind. -/
structure InternalId (kind : IdKind) where
  raw : UInt64
  deriving DecidableEq

abbrev CommandId := InternalId .command
abbrev WriteId := InternalId .write
abbrev ReplyCapabilityId := InternalId .replyCapability

/-- `SystemBytes`: the four-byte transaction correlation value. -/
structure SystemBytes where
  raw : UInt32
  deriving DecidableEq

namespace InternalId

variable {kind : IdKind}

instance : Ord (InternalId kind) := ⟨compareOn raw⟩

instance : TransOrd (InternalId kind) := inferInstanceAs (TransCmp (compareOn raw))

instance : LawfulEqOrd (InternalId kind) where
  eq_of_compare {a b} h := by
    cases a
    cases b
    exact congrArg mk (LawfulEqOrd.eq_of_compare h)

end InternalId

namespace SystemBytes

instance : Ord SystemBytes := ⟨compareOn raw⟩

instance : TransOrd SystemBytes := inferInstanceAs (TransCmp (compareOn raw))

instance : LawfulEqOrd SystemBytes where
  eq_of_compare {a b} h := by
    cases a
    cases b
    exact congrArg mk (LawfulEqOrd.eq_of_compare h)

end SystemBytes

/-- `u64::checked_add(1)`, by which every 64-bit identifier space advances without wrapping. -/
def u64CheckedSucc (value : UInt64) : Option UInt64 :=
  if value = 0xFFFFFFFFFFFFFFFF then none else some (value + 1)

/-- `u32::checked_add(1)`, by which the System Bytes space advances without wrapping. -/
def u32CheckedSucc (value : UInt32) : Option UInt32 :=
  if value = 0xFFFFFFFF then none else some (value + 1)

/-- `SessionId`: a Data Session ID; `0xFFFF` is reserved for control messages. -/
structure SessionId where
  raw : UInt16
  unreserved : raw ≠ 0xFFFF
  deriving DecidableEq

/-- `ConnectionGeneration`: one TCP incarnation. -/
structure ConnectionGeneration where
  raw : UInt64
  deriving DecidableEq

/-! ## Logical time -/

/-- The nanoseconds of `Duration::MAX`. -/
def durationMax : ℕ := (2 ^ 64 - 1) * 10 ^ 9 + 999999999

/-- A Rust `Duration`, counted in nanoseconds. -/
structure Duration where
  nanos : ℕ
  bounded : nanos ≤ durationMax
  deriving DecidableEq

/-- `MonoTime`: logical time since the generation-local epoch.  Every clock reading is turned
into one before Core sees it, so Core never reads a clock. -/
structure MonoTime where
  elapsed : Duration
  deriving DecidableEq

namespace MonoTime

/-- The nanoseconds since the epoch, the key of the order on logical times. -/
def nanos (time : MonoTime) : ℕ := time.elapsed.nanos

theorem nanos_injective : Function.Injective nanos := by
  rintro ⟨⟨a, ha⟩⟩ ⟨⟨b, hb⟩⟩ h
  obtain rfl : a = b := h
  rfl

instance : LinearOrder MonoTime := LinearOrder.lift' nanos nanos_injective

/-- `MonoTime::ZERO`: the epoch itself. -/
def zero : MonoTime := ⟨⟨0, Nat.zero_le _⟩⟩

/-- `MonoTime::checked_add`: `none` on overflow. -/
def checkedAdd (time : MonoTime) (duration : Duration) : Option MonoTime :=
  if h : time.nanos + duration.nanos ≤ durationMax then
    some ⟨⟨time.nanos + duration.nanos, h⟩⟩
  else
    none

end MonoTime

/-- `HsmsTimeouts`: the protocol timer policy.  Its only constructors validate it, so every
mandatory timer and an enabled idle probe are non-zero. -/
structure HsmsTimeouts where
  connect : Duration
  t3 : Duration
  t5 : Duration
  t6 : Duration
  t7 : Duration
  t8 : Duration
  linktest : Option Duration
  mandatory_pos : ∀ d ∈ [connect, t3, t5, t6, t7, t8], 0 < d.nanos
  linktest_pos : ∀ d ∈ linktest, 0 < d.nanos

/-- `Duration::from_secs` on the small literals of the default policies. -/
def Duration.ofSecs (seconds : ℕ) (h : seconds < 2 ^ 64 := by decide) : Duration :=
  ⟨seconds * 10 ^ 9, by unfold durationMax; omega⟩

/-- `HsmsTimeouts::default`: all timers enabled, with an idle probe every thirty seconds. -/
def HsmsTimeouts.default : HsmsTimeouts where
  connect := .ofSecs 10
  t3 := .ofSecs 45
  t5 := .ofSecs 10
  t6 := .ofSecs 5
  t7 := .ofSecs 10
  t8 := .ofSecs 5
  linktest := some (.ofSecs 30)
  mandatory_pos := by decide
  linktest_pos := by decide

/-! ## Terminal facts and close intent -/

/-- `TransportFaultKind`: the portable classes of a fault of the transport. -/
inductive TransportFaultKind where
  | writeZero
  | connectionReset
  | brokenPipe
  | unexpectedEof
  | timedOut
  | cancelled
  | other
  deriving DecidableEq

/-- `TransportFault`: a fault without its platform-dependent text. -/
structure TransportFault where
  kind : TransportFaultKind
  deriving DecidableEq

/-- `WriteOutcome`: the unique terminal outcome of an admitted frame.  Where it is indeterminate
a part of the frame may have left, and the stream is of no further use. -/
inductive WriteOutcome where
  | committed
  | notWritten (fault : TransportFault)
  | indeterminate (fault : TransportFault)
  deriving DecidableEq

/-- `CommunicationsTimeoutKind`: the timers that end a generation when they run out. -/
inductive CommunicationsTimeoutKind where
  | t6
  | t7
  | t8
  deriving DecidableEq

/-- `GenerationCloseReason`: why a generation closes.  The first reason is kept; later ones
change nothing. -/
inductive GenerationCloseReason where
  | localStop
  | localDisconnect
  | localSeparate
  | separateReceived
  | transportLost
  | protocolViolation
  | controlBackpressure
  | applicationBackpressure
  | systemBytesExhausted
  | runtimeInvariant
  | communicationsTimeout (kind : CommunicationsTimeoutKind)
  deriving DecidableEq

/-- `CloseBarrier`: whether the transport is closed at once, or behind the outcome of one last
write. -/
inductive CloseBarrier where
  | immediate
  | afterWrite (writeId : WriteId)
  deriving DecidableEq

/-- `SessionState`: the HSMS-SS selection state inside one TCP generation.  A generation begins
as `notSelected`. -/
inductive SessionState where
  | notSelected
  | selected
  | closing
  | closed
  deriving DecidableEq

end Hsms
end SecsRust
