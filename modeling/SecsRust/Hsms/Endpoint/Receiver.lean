import SecsRust.Hsms.Generation.Driver.State

/-!
# Delivery to the application

`hsms/endpoint/receiver.rs`: two bounded channels, one for Primaries and one for reports of
malformed frames. A queued Primary also holds the bytes of its frame, measured again from
its body, until the application receives it.  A Primary that finds no place or no bytes is
dropped, and so is a report that finds no place; in either case the loop then closes the
generation, since the application has fallen behind.

A channel is its queue together with its capacity; only `try_send` is used, so no place is
ever reserved ahead.  A receiver that is dropped closes its channel and drops what is in it,
and the bytes of the dropped Primaries are free again.
-/

namespace SecsRust
namespace Hsms

open Std Secs2

/-- `QueuedPrimary`: a Primary with the bytes that it holds until it is received. -/
structure QueuedPrimary where
  primary : InboundPrimary
  bytes : ℕ

/-- `Delivery`: `bytes` are the permits that are left.  Each of the two channels has a capacity
of its own, and only Primaries hold bytes. -/
structure Delivery where
  primaries : List QueuedPrimary
  primaryCapacity : ℕ
  primariesClosed : Bool
  errors : List InboundProtocolError
  errorCapacity : ℕ
  errorsClosed : Bool
  bytes : ℕ

namespace Delivery

/-- `Delivery::new`: two empty channels and all the bytes of the policy. -/
def new (config : EndpointConfig) : Delivery where
  primaries := []
  primaryCapacity := config.limits.applicationEventCapacity
  primariesClosed := false
  errors := []
  errorCapacity := config.runtime.protocolErrorCapacity
  errorsClosed := false
  bytes := config.runtime.primaryQueueBytes

/-- `capacity`: the places that are left in the two channels, none in one that is closed. -/
def capacity (delivery : Delivery) : ℕ × ℕ :=
  (if delivery.primariesClosed then 0 else delivery.primaryCapacity - delivery.primaries.length,
    if delivery.errorsClosed then 0 else delivery.errorCapacity - delivery.errors.length)

/-- The bytes that `primary` charges for a body. -/
def charge (target : Target) (body : Option SecsItem) : Option ℕ :=
  match prepareBody body with
  | .error _ => none
  | .ok plan => (target.checkedAdd plan.encodedLength 14).filter (· ≤ u32Max)

/-- `primary`: `none` where the Primary is dropped.  It is dropped where its charge cannot be
computed, where the bytes are not there, or where the channel has no place. -/
def primary (target : Target) (delivery : Delivery) (primary : InboundPrimary) : Option Delivery :=
  match charge target primary.message.body with
  | none => none
  | some length =>
    if delivery.bytes < length then none
    else if delivery.primariesClosed ∨
      delivery.primaryCapacity ≤ delivery.primaries.length then none
    else
      some { delivery with
        primaries := delivery.primaries ++ [⟨primary, length⟩]
        bytes := delivery.bytes - length }

/-- `error`: `none` where the report is dropped. -/
def error (delivery : Delivery) (error : InboundProtocolError) : Option Delivery :=
  if delivery.errorsClosed ∨ delivery.errorCapacity ≤ delivery.errors.length then none
  else some { delivery with errors := delivery.errors ++ [error] }

/-- `recv_primary`, if there is something to receive. -/
def recvPrimary (delivery : Delivery) : Option InboundPrimary × Delivery :=
  match delivery.primaries with
  | [] => (none, delivery)
  | queued :: rest =>
    (some queued.primary, { delivery with primaries := rest, bytes :=
      delivery.bytes + queued.bytes })

/-- `recv_protocol_error`, if there is something to receive. -/
def recvProtocolError (delivery : Delivery) : Option InboundProtocolError × Delivery :=
  match delivery.errors with
  | [] => (none, delivery)
  | error :: rest => (some error, { delivery with errors := rest })

/-- The `PrimaryReceiver` is dropped, and the bytes of what it had not received are free. -/
def dropPrimaries (delivery : Delivery) : Delivery :=
  { delivery with
    primaries := []
    primariesClosed := true
    bytes := delivery.bytes + (delivery.primaries.map QueuedPrimary.bytes).sum }

/-- The `ProtocolErrorReceiver` is dropped with what it had not received. -/
def dropErrors (delivery : Delivery) : Delivery :=
  { delivery with errors := [], errorsClosed := true }

end Delivery

end Hsms
end SecsRust
