import SecsRust.Hsms.Protocol

/-!
# Commands presented to the Core and actions it returns

`hsms/core/command.rs` and `hsms/core/action.rs`: what the Driver hands to the Session Core,
and the ordered effects the Core hands back for one input.

The actions of one input form a batch, and their order is part of the interface: a frame is
sent, a command completed, a Primary delivered or a state published in the order in which
the Core has decided. A `closeGeneration` carries the reason and the barrier, which is the
write whose outcome the Driver must wait for before it closes the transport, if there is
one.
-/

namespace SecsRust
namespace Hsms

open Secs2

/-- `CoreCommandKind`: the protocol intents of the Core. -/
inductive CoreCommandKind where
  | deselect
  | select
  | linktest
  | separate
  | send (primary : PrimaryMessage)
  | request (primary : PrimaryMessage)

/-- `CoreCommand`: one Driver-accepted command.  The identity is the Driver's, and Core hands it
back with the result. -/
structure CoreCommand where
  commandId : CommandId
  kind : CoreCommandKind

/-- `CommittedWrite`: proof that a Send reached the local commit point. -/
structure CommittedWrite where
  writeId : WriteId
  deriving DecidableEq

/-- `MatchedSecondary`: the validated content of a matching Secondary. -/
structure MatchedSecondary where
  header : DataHeader
  body : Option SecsItem

/-- `CoreCommandResult`: the typed terminal result of one accepted command. -/
inductive CoreCommandResult where
  | requestTimedOut (header : DataHeader)
  | control (result : Except OperationError Unit)
  | send (result : Except OperationError CommittedWrite)
  | request (result : Except OperationError MatchedSecondary)

/-- `CoreAction`: one ordered effect applied by the Driver.  Core never acts by itself;
everything that it wants done is one of these. -/
inductive CoreAction where
  | deliverPrimary (message : DataMessage) (capability : Option ReplyCapabilityId)
  | sendFrame (writeId : WriteId) (message : ProtocolMessage)
  | sessionStateChanged (state : SessionState)
  | completeCommand (commandId : CommandId) (result : CoreCommandResult)
  | closeGeneration (reason : GenerationCloseReason) (barrier : CloseBarrier)

end Hsms
end SecsRust
