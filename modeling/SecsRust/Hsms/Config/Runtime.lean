import SecsRust.Hsms.Config
import SecsRust.Hsms.Core.Session.State

/-!
# Runtime policy and endpoint configuration

`hsms/config/runtime.rs` and the `EndpointConfig` of `hsms/config.rs`.  Timers and limits
have passed their own `validate`, so the validation of a configuration is the one of its
runtime policy.  The socket address is left out: nothing in the protocol reads it.

The policy is validated against the limits and the timers, and on a target.  It bounds every
count that becomes the size of a channel or a semaphore, every byte budget from below by one
largest frame, and every duration by what the clock can still add to the present instant.
The checks stand in the order of the source, since they differ in the error they report.

`RuntimePolicy.counts` and `RuntimePolicy.durations` are the two lists that `validate` goes
through.  What a validated configuration is good for is the subject of `Endpoint.Budgets`.
-/

namespace SecsRust
namespace Hsms

open Secs2

/-- `RuntimePolicy`: the byte budgets and the capacities of the channels of an endpoint, and its
deadlines outside of the protocol. -/
structure RuntimePolicy where
  commandBytes : ℕ
  replyCapacity : ℕ
  replyBytes : ℕ
  inboundBytes : ℕ
  primaryQueueBytes : ℕ
  writeBytes : ℕ
  protocolErrorCapacity : ℕ
  diagnosticCapacity : ℕ
  drain : Duration
  residence : Duration
  write : Duration
  cleanup : Duration
  shutdown : Duration
  autoSelect : Bool

/-- `MAX_CAPACITY`: the largest count that every supported target takes for a channel or a
semaphore. -/
def maxCapacity : ℕ := 2 ^ 28

namespace RuntimePolicy

variable (policy : RuntimePolicy)

/-- The counts that `validate` bounds, in its order; `commands` and `lanes` are the two sums. -/
def counts (limits : EndpointLimits) (commands lanes : ℕ) : List ℕ :=
  [limits.commandCapacity, commands, policy.replyCapacity, policy.replyBytes,
    limits.criticalLaneCapacity, limits.dataLaneCapacity, limits.applicationEventCapacity,
    limits.transactionCapacity, limits.tombstoneCapacity, limits.replyCapabilityCapacity,
    policy.protocolErrorCapacity, policy.diagnosticCapacity, lanes, policy.commandBytes,
    policy.inboundBytes, policy.primaryQueueBytes, policy.writeBytes]

/-- The durations that `validate` bounds, in its order. -/
def durations (timeouts : HsmsTimeouts) : List Duration :=
  [policy.drain, policy.residence, policy.write, policy.cleanup, policy.shutdown, timeouts.connect,
    timeouts.t3, timeouts.t5, timeouts.t6, timeouts.t7, timeouts.t8]

/-- `validate`, at the instant `now`.  The clock of the model counts what a `Duration` counts, so an
addition fails where that range ends; `Instant::checked_add` of the source ends earlier on some
platforms (on Linux with the seconds of an `i64`), where this check refuses some longest durations
more. -/
def validate (limits : EndpointLimits) (timeouts : HsmsTimeouts) (now : MonoTime)
    (target : Target := .sixtyFour) : Except ConfigError Unit :=
  match target.checkedAdd limits.maxMessageLength 4 with
  | none => .error (.runtimePolicy "frame prefix length overflow")
  | some frame =>
    if policy.commandBytes < frame ∨ policy.replyBytes < frame ∨ policy.inboundBytes < frame ∨
        policy.primaryQueueBytes < frame ∨ policy.writeBytes < frame then
      .error (.runtimePolicy "each wire-byte budget must hold one maximum frame")
    else
      match target.checkedAdd limits.criticalLaneCapacity limits.dataLaneCapacity with
      | none => .error (.runtimePolicy "Writer lane capacity overflow")
      | some lanes =>
        match (target.checkedAdd limits.commandCapacity policy.replyCapacity).bind
            (target.checkedAdd · 1) with
        | none => .error (.runtimePolicy "endpoint command capacity overflow")
        | some commands =>
          if (policy.counts limits commands lanes).any fun count =>
              count = 0 || count > maxCapacity then
            .error (.runtimePolicy "runtime capacity is zero or exceeds portable channel limits")
          else if (policy.durations timeouts).any fun duration =>
              duration.nanos = 0 || (now.checkedAdd duration).isNone then
            .error (.runtimePolicy "runtime deadline is zero or overflows the monotonic clock")
          else if timeouts.linktest.any fun duration => (now.checkedAdd duration).isNone then
            .error (.runtimePolicy "Linktest interval overflows the monotonic clock")
          else
            .ok ()

end RuntimePolicy

theorem tenSeconds_fits : 10 < 2 ^ 64 := by decide

theorem twentySeconds_fits : 20 < 2 ^ 64 := by decide

/-- `RuntimePolicy::default`, whose budgets each hold a largest frame of the default limits. -/
def RuntimePolicy.default : RuntimePolicy where
  commandBytes := 64 * 1024 * 1024
  replyCapacity := 64
  replyBytes := 32 * 1024 * 1024
  inboundBytes := 32 * 1024 * 1024
  primaryQueueBytes := 32 * 1024 * 1024
  writeBytes := 64 * 1024 * 1024
  protocolErrorCapacity := 64
  diagnosticCapacity := 64
  drain := .ofSecs 5 fiveSeconds_fits
  residence := .ofSecs 10 tenSeconds_fits
  write := .ofSecs 10 tenSeconds_fits
  cleanup := .ofSecs 5 fiveSeconds_fits
  shutdown := .ofSecs 20 twentySeconds_fits
  autoSelect := true

/-- `ConnectionMode`: which side opens the connection. -/
inductive ConnectionMode where
  | active
  | passive
  deriving DecidableEq

/-- `EndpointConfig`, without the socket address.  Its limits and its timers have passed their
own checks, its policy has not. -/
structure EndpointConfig where
  runtime : RuntimePolicy
  mode : ConnectionMode
  sessionId : SessionId
  timeouts : HsmsTimeouts
  limits : EndpointLimits
  secs2Limits : DecodeLimits

/-- `EndpointConfig::validate`: what is left to check is the policy, against the limits and the
timers. -/
def EndpointConfig.validate (config : EndpointConfig) (now : MonoTime)
    (target : Target := .sixtyFour) : Except ConfigError Unit :=
  config.runtime.validate config.limits config.timeouts now target

/-- `SessionCoreConfig::from_endpoint`: the part of a configuration that the Core reads. -/
def SessionCoreConfig.fromEndpoint (config : EndpointConfig) : SessionCoreConfig where
  sessionId := config.sessionId
  transactionCapacity := config.limits.transactionCapacity
  tombstoneCapacity := config.limits.tombstoneCapacity
  timeouts := config.timeouts
  replyCapacity := config.limits.replyCapabilityCapacity
  drainTimeout := config.runtime.drain

end Hsms
end SecsRust
