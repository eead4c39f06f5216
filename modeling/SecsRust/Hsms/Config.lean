import SecsRust.Secs2.Limits

/-!
# Endpoint limits

The bounded capacities of `hsms/config.rs`.  `EndpointLimits` carries the proof that it has
passed its own `validate`, as in the source, where no other constructor exists.  So every
capacity is positive, and the Message Length bound fits both the ten-byte header and a
`u32`, wherever limits are met (`EndpointLimits.header_le`, `EndpointLimits.message_le`).

The check goes through the capacities under their field names, in the order of the source,
since the first that is zero is the one the error names.
-/

namespace SecsRust
namespace Hsms

open Secs2

/-- `HSMS_HEADER_LENGTH`: every Message Length counts the ten bytes of the header. -/
def hsmsHeaderLength : ℕ := 10

/-- `ConfigError`, as far as limits and runtime policies report it. -/
inductive ConfigError where
  | messageLengthTooSmall (value : ℕ)
  | messageLengthTooLarge (value : ℕ)
  | zeroCapacity (field : String)
  | runtimePolicy (description : String)
  deriving DecidableEq

/-- The capacities of `EndpointLimits` under their field names, in the order of `validate`. -/
def capacityFields (commandCapacity criticalLaneCapacity dataLaneCapacity applicationEventCapacity
    transactionCapacity tombstoneCapacity replyCapabilityCapacity : ℕ) : List (String × ℕ) :=
  [("command_capacity", commandCapacity), ("critical_lane_capacity", criticalLaneCapacity),
    ("data_lane_capacity", dataLaneCapacity),
    ("application_event_capacity", applicationEventCapacity),
    ("transaction_capacity", transactionCapacity), ("tombstone_capacity", tombstoneCapacity),
    ("reply_capability_capacity", replyCapabilityCapacity)]

/-- `EndpointLimits::validate`: the Message Length bound first, and then the capacities in their
order; the first that is zero is the one that is reported. -/
def validateEndpointLimits (maxMessageLength : ℕ) (fields : List (String × ℕ)) :
    Except ConfigError Unit :=
  if maxMessageLength < hsmsHeaderLength then .error (.messageLengthTooSmall maxMessageLength)
  else if maxMessageLength > u32Max then .error (.messageLengthTooLarge maxMessageLength)
  else
    match fields.find? fun field => field.2 = 0 with
    | some (field, _) => .error (.zeroCapacity field)
    | none => .ok ()

/-- `EndpointLimits`: limits that have passed `validate`. -/
structure EndpointLimits where
  maxMessageLength : ℕ
  commandCapacity : ℕ
  criticalLaneCapacity : ℕ
  dataLaneCapacity : ℕ
  applicationEventCapacity : ℕ
  transactionCapacity : ℕ
  tombstoneCapacity : ℕ
  replyCapabilityCapacity : ℕ
  valid : validateEndpointLimits maxMessageLength
    (capacityFields commandCapacity criticalLaneCapacity
    dataLaneCapacity applicationEventCapacity transactionCapacity tombstoneCapacity
    replyCapabilityCapacity) = .ok ()

theorem validateEndpointLimits_eq_ok {maxMessageLength : ℕ} {fields : List (String × ℕ)} :
    validateEndpointLimits maxMessageLength fields = .ok () ↔
      hsmsHeaderLength ≤ maxMessageLength ∧ maxMessageLength ≤ u32Max ∧
        ∀ field ∈ fields, field.2 ≠ 0 := by
  unfold validateEndpointLimits
  split_ifs with hsmall hlarge
  · exact iff_of_false (fun h => nomatch h) fun h => absurd h.1 (Nat.not_le.mpr hsmall)
  · exact iff_of_false (fun h => nomatch h) fun h => absurd h.2.1 (Nat.not_le.mpr hlarge)
  · have hbounds : hsmsHeaderLength ≤ maxMessageLength ∧ maxMessageLength ≤ u32Max :=
      ⟨Nat.not_lt.mp hsmall, Nat.not_lt.mp hlarge⟩
    split
    · rename_i field value hfind
      refine iff_of_false (fun h => nomatch h) fun h => ?_
      have hzero : value = 0 := by simpa using List.find?_some hfind
      exact h.2.2 _ (List.mem_of_find?_eq_some hfind) hzero
    · rename_i hfind
      refine iff_of_true rfl ⟨hbounds.1, hbounds.2, fun field hfield => ?_⟩
      exact fun hzero => List.find?_eq_none.mp hfind field hfield (decide_eq_true hzero)

namespace EndpointLimits

variable (limits : EndpointLimits)

theorem header_le : hsmsHeaderLength ≤ limits.maxMessageLength :=
  (validateEndpointLimits_eq_ok.mp limits.valid).1

theorem message_le : limits.maxMessageLength ≤ u32Max :=
  (validateEndpointLimits_eq_ok.mp limits.valid).2.1

end EndpointLimits

/-- `EndpointLimits::default`, which passes its own check. -/
def EndpointLimits.default : EndpointLimits where
  maxMessageLength := 16 * 1024 * 1024
  commandCapacity := 256
  criticalLaneCapacity := 32
  dataLaneCapacity := 256
  applicationEventCapacity := 256
  transactionCapacity := 256
  tombstoneCapacity := 512
  replyCapabilityCapacity := 256
  valid := by decide

end Hsms
end SecsRust
