import SecsRust.Hsms.Generation.Driver.Step
import SecsRust.Hsms.Supervisor.Connection

/-!
# Handles

`HsmsHandle` of `hsms/endpoint/mod.rs` with its admission of Primaries (`endpoint/data.rs`)
and replies (`endpoint/reply.rs`).  Everything an application submits passes one bounded
channel.  Before that it takes a slot of its own class, ordinary, close or reply, and a
message also takes the bytes of its frame, which are measured here for the first time.

The order of the checks is that of the source, and it shows in the errors: the connection is
captured before anything is taken, the slot is taken before the body is measured, and the
bytes after it.  What has been taken when a later check fails is given back, so a refusal
leaves the handle as it was.

The clones of a handle share their semaphores, so one record stands for all of them: it
holds the permits that are left.  What a command has taken travels with it (`CommandPermit`)
until the endpoint loop drops it. The charges depend on the target only through the
`checked_add` of its `usize`.

Of `endpoint/mod.rs` the lifecycle and control commands are not here, since they take a slot
and nothing else; the loop that receives them is `Endpoint.Runtime`.
-/

namespace SecsRust
namespace Hsms

open Std Secs2

/-- `EndpointError`: why the endpoint does not do what it was asked for. -/
inductive EndpointError where
  | notConnected
  | operation (error : OperationError)
  | backpressure
  | runtimeStopped
  | draining
  | faulted
  | staleConnectionGeneration
  | cleanupUnproven
  | io (error : IoError)
  | identifierExhausted
  deriving DecidableEq

/-- `GenerationSlotSnapshot`: the connection slot as it is published. -/
inductive GenerationSlotSnapshot where
  | none
  | open_ (generation : ConnectionGeneration)
  | draining (generation : ConnectionGeneration)
  deriving DecidableEq

/-- The semaphore that a command takes its slot from.  A class that is exhausted refuses only
commands of its own. -/
inductive HandleSlot where
  | ordinary
  | close
  | reply
  deriving DecidableEq

/-- What a `LifecycleCommand` holds of the semaphores: `_permit` and `_bytes`. -/
structure CommandPermit where
  slot : HandleSlot
  bytes : Option ℕ
  deriving DecidableEq

/-- `HsmsHandle`: the permits that are left, and the room in the command channel.  It stands for
all the clones of a handle, which share them. -/
structure HsmsHandle where
  closed : Bool
  room : ℕ
  slots : ℕ
  closeSlots : ℕ
  replySlots : ℕ
  replyBytes : ℕ
  bytes : ℕ
  maximumMessageLength : ℕ
  deriving DecidableEq

namespace HsmsHandle

/-- The handle that `HsmsEndpoint::build` makes for a validated configuration. -/
def new (config : EndpointConfig) : HsmsHandle where
  closed := false
  room := config.limits.commandCapacity + config.runtime.replyCapacity + 1
  slots := config.limits.commandCapacity
  closeSlots := 1
  replySlots := config.runtime.replyCapacity
  replyBytes := config.runtime.replyBytes
  bytes := config.runtime.commandBytes
  maximumMessageLength := config.limits.maxMessageLength

/-- The Message Length of a body, if it keeps to the bound: the part that `primary_charge` and
`submit_reply` share. -/
def messageLength (target : Target) (handle : HsmsHandle) (body : Option SecsItem) :
    Except EndpointError ℕ :=
  match prepareBody body with
  | .error source => .error (.operation (encodeError source))
  | .ok plan =>
    match (target.checkedAdd plan.encodedLength 10).filter (· ≤ handle.maximumMessageLength) with
    | none =>
      .error (.operation (.outboundFrameTooLarge plan.encodedLength handle.maximumMessageLength))
    | some length => .ok length

/-- `primary_charge`: the bytes of the frame of a Primary, as a number of permits. -/
def primaryCharge (target : Target) (handle : HsmsHandle) (message : PrimaryMessage) :
    Except EndpointError ℕ :=
  match handle.messageLength target message.body with
  | .error error => .error error
  | .ok length =>
    match (target.checkedAdd length 4).filter (· ≤ u32Max) with
    | none => .error .backpressure
    | some charge => .ok charge

/-- The bytes that `submit_reply` takes: none for an abandonment. -/
def replyCharge (target : Target) (handle : HsmsHandle) (intent : ReplyIntent)
    (body : Option SecsItem) :
    Except EndpointError (Option ℕ) :=
  match handle.messageLength target body with
  | .error error => .error error
  | .ok length =>
    match intent with
    | .abandon => .ok none
    | .secondary | .abort => if length + 4 > u32Max then .error .backpressure else .ok
        (some (length + 4))

/-- `submit_primary` up to `try_send`: the connection that is captured, and what is taken. -/
def submitPrimary (target : Target) (handle : HsmsHandle) (snapshot : GenerationSlotSnapshot)
    (message : PrimaryMessage) :
    Except EndpointError (ConnectionGeneration × CommandPermit) × HsmsHandle :=
  if handle.closed then (.error .runtimeStopped, handle)
  else
    match snapshot with
    | .draining _ => (.error .draining, handle)
    | .none => (.error .notConnected, handle)
    | .open_ generation =>
      if handle.slots = 0 then (.error .backpressure, handle)
      else
        match handle.primaryCharge target message with
        | .error error => (.error error, handle)
        | .ok charge =>
          if handle.bytes < charge then (.error .backpressure, handle)
          else if handle.room = 0 then (.error .backpressure, handle)
          else
            (.ok (generation, ⟨.ordinary, some charge⟩),
              { handle with
                room := handle.room - 1
                slots := handle.slots - 1
                bytes := handle.bytes - charge })

/-- `submit_reply` up to `try_send`: a reply may go to a connection that drains, and an
abandonment takes no bytes. -/
def submitReply (target : Target) (handle : HsmsHandle) (snapshot : GenerationSlotSnapshot)
    (intent : ReplyIntent) (token : ReplyToken) (body : Option SecsItem) :
    Except EndpointError (ConnectionGeneration × CommandPermit) × HsmsHandle :=
  if handle.closed then (.error .runtimeStopped, handle)
  else
    match snapshot with
    | .none => (.error .notConnected, handle)
    | .open_ generation | .draining generation =>
      if intent = .secondary ∧ token.normalSecondaryAvailable = false then
        (.error (.operation .replyRequiresAbort), handle)
      else if handle.replySlots = 0 then (.error .backpressure, handle)
      else
        match handle.replyCharge target intent body with
        | .error error => (.error error, handle)
        | .ok charge =>
          if handle.replyBytes < charge.getD 0 then (.error .backpressure, handle)
          else if handle.room = 0 then (.error .backpressure, handle)
          else
            (.ok (generation, ⟨.reply, charge⟩),
              { handle with
                room := handle.room - 1
                replySlots := handle.replySlots - 1
                replyBytes := handle.replyBytes - charge.getD 0 })

end HsmsHandle

end Hsms
end SecsRust
