import SecsRust.Hsms.Config.Runtime
import SecsRust.Hsms.Core.Session.Step
import SecsRust.Hsms.Generation.Transport.Writer

/-!
# The state of one Session Driver

The records of `hsms/generation/driver/mod.rs` and the application values of `hsms/api` that
they hold.  The Driver stands between Core, which decides, and the Writer, which sends: it
keeps the commands that have been accepted but not presented, the completion endpoints of
those that Core has, the queues of what has been received, and the state of a close.

The Driver is generic in its Writer and in the completion endpoints of its commands, and so
is the model: a Writer is any type with the four operations of `WriterIngress`, each of
which may answer as it likes, and an endpoint is a value of any type.  What holds of every
such Writer holds of the bounded one of this repository, and it holds without looking at its
lanes.

What the Driver does to its surroundings is recorded as `DriverEffect`s, in order.  They
include what a call returns to its caller, so that an endpoint or a token that is refused is
seen to be handed back. An endpoint that were dropped silently would be missing from the
effects, and that is what the accounts of the later modules exclude.

Three kinds of effects are no action of the source: `called` records a call of a Core entry
point with the Core it was made on, `presented` and `settledWrite` record that a command has
left the FIFO for Core and that a write outcome has been processed, and `underflow` records
a subtraction from `command_bytes` that would not be exact.
-/

namespace SecsRust
namespace Hsms

open Std Secs2

universe u v

/-! ## Application values -/

/-- `ControlIntent`: the control procedures that an application may ask for. -/
inductive ControlIntent where
  | select
  | deselect
  | linktest
  | separate
  deriving DecidableEq

/-- `ReplyToken`: `owner` is the identity of the Driver that minted it. -/
structure ReplyToken where
  owner : ℕ
  capabilityId : ReplyCapabilityId
  generation : ConnectionGeneration
  normalSecondaryAvailable : Bool
  deriving DecidableEq

/-- `belongs_to`: a token is honoured only by the Driver that has minted it, and in its
generation. -/
def ReplyToken.belongsTo (token : ReplyToken) (owner : ℕ) (generation : ConnectionGeneration) :
    Bool :=
  token.owner = owner && token.generation = generation

/-- `InboundToken`: what comes with an inbound Primary, the right to answer it or nothing. -/
inductive InboundToken where
  | reply (token : ReplyToken)
  | data

/-- `from_data`: the wire form of a Data header. -/
def MessageContext.fromData (generation : ConnectionGeneration) (header : DataHeader) :
    MessageContext :=
  ⟨generation, (dataHeaderBytes header).snapshot.bytes⟩

/-- `InboundPrimary`: a Primary of the peer as the application receives it. -/
structure InboundPrimary where
  message : PrimaryMessage
  token : InboundToken
  context : MessageContext

/-- `SecondaryMessage`: the response to a Request as the application receives it. -/
structure SecondaryMessage where
  stream : Stream
  function : Function
  body : Option SecsItem
  context : MessageContext

/-- `SendReceipt`: a Send has been committed, in this generation. -/
structure SendReceipt where
  generation : ConnectionGeneration
  deriving DecidableEq

/-- `InboundViolationKind`: a violation without the frame it was found in. -/
inductive InboundViolationKind where
  | header (kind : HeaderViolationKind)
  | payload (kind : PayloadViolationKind)
  deriving DecidableEq

/-- `InboundProtocolError`: the report of a frame that could not be interpreted. -/
structure InboundProtocolError where
  context : MessageContext
  kind : InboundViolationKind
  source : Option DecodeError

/-- `DriverCommandResult`: what the endpoint of a command is completed with.  A refusal that
comes before Core hands back what was submitted. -/
inductive DriverCommandResult where
  | primaryRejected (message : PrimaryMessage) (error : OperationError)
  | replyRejected (intent : ReplyIntent) (token : ReplyToken) (body : Option SecsItem)
      (error : OperationError)
  | control (result : Except OperationError Unit)
  | send (result : Except OperationError SendReceipt)
  | request (result : Except OperationError SecondaryMessage)

/-- `ControlAdmissionErrorKind`: why a control command is not accepted. -/
inductive ControlAdmissionErrorKind where
  | draining
  | unsupportedIntent
  | closing
  | full
  deriving DecidableEq

/-- `DataAdmissionErrorKind`: why a Send, a Request or a reply is not accepted. -/
inductive DataAdmissionErrorKind where
  | draining
  | closing
  | full
  | invalid (error : OperationError)
  deriving DecidableEq

/-! ## Accepted commands -/

/-- `CompletionKind`: the class of result that a command gets from Core. -/
inductive CompletionKind where
  | control
  | send
  | request
  deriving DecidableEq

/-- `connection_lost_result`: the result of a command that is drained, in its own class. -/
def CompletionKind.connectionLostResult : CompletionKind → DriverCommandResult
  | control => .control (.error .connectionLost)
  | send => .send (.error .connectionLost)
  | request => .request (.error .connectionLost)

/-- `AcceptedCommandKind`: an intent before it is presented to Core. -/
inductive AcceptedCommandKind where
  | reply (intent : ReplyIntent) (token : ReplyToken) (body : Option SecsItem)
  | control (kind : CoreCommandKind)
  | send (message : PrimaryMessage)
  | request (message : PrimaryMessage)

namespace AcceptedCommandKind

/-- `completion_kind`: the class under which a command will be completed.  An abandonment writes
nothing, so it is a control command to Core. -/
def completionKind : AcceptedCommandKind → CompletionKind
  | reply .abandon _ _ => .control
  | reply _ _ _ => .send
  | control _ => .control
  | send _ => .send
  | request _ => .request

/-- `requires_data_permit`: the command will write a Data frame, for which room is reserved
before Core is called. -/
def requiresDataPermit : AcceptedCommandKind → Bool
  | send _ | request _ | reply .secondary _ _ | reply .abort _ _ => true
  | _ => false

/-- The command is a reply that puts a frame on the wire. -/
def isFramedReply : AcceptedCommandKind → Bool
  | reply .secondary _ _ | reply .abort _ _ => true
  | _ => false

/-- `body`: the body of the frame that the command will write.  An abort has none, whatever was
submitted with it. -/
def body : AcceptedCommandKind → Option SecsItem
  | reply .secondary _ body => body
  | reply _ _ _ => none
  | send message | request message => message.body
  | control _ => none

/-- The call by which a command enters Core: `on_reply`, or `on_command` with `into_core_kind`. -/
def coreInput (commandId : CommandId) (now : MonoTime) : AcceptedCommandKind → Input
  | reply intent token body => .reply commandId token.capabilityId intent body now
  | control kind => .command ⟨commandId, kind⟩ now
  | send message => .command ⟨commandId, .send message⟩ now
  | request message => .command ⟨commandId, .request message⟩ now

/-- `rejected`: the result of a command that is refused before Core has seen it, with everything
that was submitted. -/
def rejected (error : OperationError) : AcceptedCommandKind → DriverCommandResult
  | reply intent token body => .replyRejected intent token body error
  | send message => .primaryRejected message error
  | request message => .primaryRejected message error
  | control _ => .control (.error error)

end AcceptedCommandKind

/-- `AcceptedCommand`: a command in the FIFO, with its bytes and its endpoint. -/
structure AcceptedCommand (κ : Type v) where
  byteCharge : ℕ
  kind : AcceptedCommandKind
  completion : κ

/-- `PendingCompletion`: the endpoint of a command that Core has, with the class of its result. -/
structure PendingCompletion (κ : Type v) where
  kind : CompletionKind
  completion : κ

/-- What the completion table keeps of a command. -/
def AcceptedCommand.pending {κ : Type v} (command : AcceptedCommand κ) : PendingCompletion κ :=
  ⟨command.kind.completionKind, command.completion⟩

/-! ## Closing and failures -/

/-- `ClosingState`: the first reason, and the write that the transport waits for, if any. -/
structure ClosingState where
  reason : GenerationCloseReason
  barrierWriteId : Option WriteId
  deriving DecidableEq

/-- The write that a barrier waits for. -/
def CloseBarrier.writeId : CloseBarrier → Option WriteId
  | immediate => none
  | afterWrite writeId => some writeId

/-- `ActionApplicationFailure`: why an action of Core could not be applied.  Each of them ends
the generation. -/
inductive ActionApplicationFailure where
  | inboundFull
  | controlWriteAdmission (writeId : WriteId) (error : WriteAdmissionError)
  | reservedDataAdmission (writeId : WriteId) (error : ReservedDataAdmissionError)
  | missingOrMultipleDataFrame (writeId : WriteId)
  | dataPermitRelease (error : DataPermitError)
  | duplicateOrUnknownCompletion
  | invalidCompletionResult
  deriving DecidableEq

/-- The reason and the failed write by which `handle_action_failure_with_reason` shuts Core down. -/
def ActionApplicationFailure.shutdown :
    ActionApplicationFailure → GenerationCloseReason × Option WriteId
  | inboundFull => (.applicationBackpressure, none)
  | controlWriteAdmission writeId .full => (.controlBackpressure, some writeId)
  | controlWriteAdmission writeId .closed => (.transportLost, some writeId)
  | controlWriteAdmission writeId .invariant => (.runtimeInvariant, some writeId)
  | reservedDataAdmission writeId .closed => (.transportLost, some writeId)
  | reservedDataAdmission writeId .invariant => (.runtimeInvariant, some writeId)
  | missingOrMultipleDataFrame writeId => (.runtimeInvariant, some writeId)
  | dataPermitRelease _ => (.runtimeInvariant, none)
  | duplicateOrUnknownCompletion => (.runtimeInvariant, none)
  | invalidCompletionResult => (.runtimeInvariant, none)

/-! ## The Driver -/

/-- `WriterIngress`. -/
class WriterIngress (W : Type u) where
  DataPermit : Type u
  tryReserveMessage : W → Option SecsItem → Except OperationError DataPermit × W
  releaseData : W → DataPermit → Except DataPermitError Unit × W
  admitReservedData : W → DataPermit → OutboundFrame → Except ReservedDataAdmissionError Unit × W
  tryAdmit : W → OutboundFrame → Except WriteAdmissionError Unit × W

/-- `SessionDriver`: a Core with the commands before it and the endpoints behind it, over a
Writer. -/
structure SessionDriver (W : Type u) (κ : Type v) where
  generation : ConnectionGeneration
  tokenOwner : ℕ
  inbound : List InboundPrimary
  inboundCapacity : ℕ
  protocolErrors : List InboundProtocolError
  protocolErrorCapacity : ℕ
  core : SessionCore
  writer : W
  /-- Commands accepted but not yet assigned a CommandId. -/
  acceptedCommands : List (AcceptedCommand κ)
  commandCapacity : ℕ
  commandByteCapacity : ℕ
  commandBytes : ℕ
  shutdownDraining : Bool
  maximumMessageLength : ℕ
  /-- The endpoints of commands already presented to Core. -/
  completions : ExtTreeMap CommandId (PendingCompletion κ)
  admittedWrites : Finset WriteId
  nextCommandId : Option UInt64
  closing : Option ClosingState
  transportClosed : Bool

/-- What a Driver does to its surroundings, in order. -/
inductive DriverEffect (κ : Type v) where
  | complete (completion : κ) (result : DriverCommandResult)
  | observe (state : SessionState)
  | notice (generation : ConnectionGeneration) (notice : ProtocolNotice)
  | closeTransport
  -- what a call returns
  | accepted (command : AcceptedCommand κ)
  | controlRefused (kind : ControlAdmissionErrorKind) (intent : ControlIntent) (completion : κ)
  | dataRefused (kind : DataAdmissionErrorKind) (message : PrimaryMessage) (completion : κ)
  | replyRefused (completion : κ) (result : DriverCommandResult)
  | takenInbound (primary : Option InboundPrimary)
  | takenError (error : Option InboundProtocolError)
  | returned (processed : Bool)
  -- what the source does without showing it
  | called (core : SessionCore) (input : Input)
  | presented (commandId : CommandId) (command : AcceptedCommand κ)
  | minted (token : ReplyToken)
  | closing (reason : GenerationCloseReason) (barrier : CloseBarrier)
  | admitted (frame : OutboundFrame)
  | settledWrite (writeId : WriteId)
  | underflow

namespace SessionDriver

variable {W : Type u} {κ : Type v}

/-- `with_command_capacity`: a Driver with the default bounds for everything but its FIFO. -/
def withCommandCapacity (generation : ConnectionGeneration) (tokenOwner : ℕ) (core : SessionCore)
    (writer : W) (capacity : ℕ) : SessionDriver W κ where
  generation := generation
  tokenOwner := tokenOwner
  inbound := []
  inboundCapacity := EndpointLimits.default.applicationEventCapacity
  protocolErrors := []
  protocolErrorCapacity := EndpointLimits.default.applicationEventCapacity
  core := core
  writer := writer
  acceptedCommands := []
  commandCapacity := capacity
  commandByteCapacity := RuntimePolicy.default.commandBytes
  commandBytes := 0
  shutdownDraining := false
  maximumMessageLength := EndpointLimits.default.maxMessageLength
  completions := ∅
  admittedWrites := ∅
  nextCommandId := some 0
  closing := none
  transportClosed := false

/-- `from_config`, for a configuration that has been validated at the instant `now`. -/
def fromConfig (generation : ConnectionGeneration) (tokenOwner : ℕ) (config : EndpointConfig)
    (writer : W) (now : MonoTime) (target : Target := .sixtyFour) :
    Except ConfigError (SessionDriver W κ) :=
  match config.validate now target with
  | .error error => .error error
  | .ok () =>
    let core := SessionCore.new (.fromEndpoint config)
    let driver := withCommandCapacity generation tokenOwner core writer
        config.limits.commandCapacity
    .ok { driver with
      inboundCapacity := config.limits.applicationEventCapacity
      protocolErrorCapacity := config.runtime.protocolErrorCapacity
      commandByteCapacity := config.runtime.commandBytes
      maximumMessageLength := config.limits.maxMessageLength }

end SessionDriver

end Hsms
end SecsRust
