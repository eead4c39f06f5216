import SecsRust.Lib.Machine
import SecsRust.Hsms.Generation.Driver.State

/-!
# The operations of the Session Driver

The functions of `hsms/generation/driver/mod.rs`, each under its own name.  An operation
mutates the Driver through a `Round`, which also collects the effects: a function of the
source that takes `&mut self` becomes a function from rounds to rounds, and its order of
statements is the order in which the rounds are threaded.

A batch of Core actions is applied in order until the first one that cannot be
(`Round.applyActionBatch`); the failure is then turned into one `on_shutdown` of Core, whose
own batch is applied in the same way (`Round.shutdownAfterDriverFailure`).  A batch of that
second kind that fails ends in a close without another call of Core.  The order matters to
what is proved later: an action that has been applied before the failure stays applied, and
the actions behind it are lost.

Where the source checks several conditions one after the other before it accepts a command,
the checks are kept in this order (`Round.tryAcceptReply`, `Round.tryAcceptData`), since the
error that a caller sees depends on it.

`SessionDriver.machine` is the Driver as a machine over its entry points, and every result
about runs of a Driver is about this machine.
-/

namespace SecsRust
namespace Hsms

open Std Secs2 WriterIngress

universe u v

variable {W : Type u} {κ : Type v}

/-! ## What only the Driver asks of Core -/

namespace SessionCore

/-- `owns_command`: Core still owes the command a completion. -/
def ownsCommand (core : SessionCore) (commandId : CommandId) : Bool :=
  core.openCommands.contains commandId

/-- What `take_notice` leaves: a Core without a notice. -/
def withoutNotice (core : SessionCore) : SessionCore := { core with notice := none }

end SessionCore

namespace SessionDriver

/-- `command_charge`: the bytes of the frame that a body will become, if it keeps to the Message
Length and there is room for it in the budget of the FIFO. -/
def commandCharge (driver : SessionDriver W κ) (body : Option SecsItem)
    (target : Target := .sixtyFour) : Except OperationError ℕ :=
  match prepareBody body with
  | .error source => .error (encodeError source)
  | .ok plan =>
    match (target.checkedAdd plan.encodedLength 10).filter (· ≤ driver.maximumMessageLength) with
    | none => .error (.outboundFrameTooLarge plan.encodedLength driver.maximumMessageLength)
    | some messageLength =>
      match target.checkedAdd messageLength 4 with
      | none => .error .backpressure
      | some charge =>
        if charge > driver.commandByteCapacity - driver.commandBytes then .error .backpressure
        else .ok charge

/-- `materialize_result`: a result of Core in the terms of the application.  It has to be of the
class of the endpoint, and a Send succeeds only for a write that was admitted. -/
def materializeResult (driver : SessionDriver W κ) :
    CompletionKind → CoreCommandResult → Option DriverCommandResult
  | .control, .control result => some (.control result)
  | .send, .send (.ok committed) =>
    if committed.writeId ∈ driver.admittedWrites then some
      (.send (.ok ⟨driver.generation⟩)) else none
  | .send, .send (.error error) => some (.send (.error error))
  | .request, .request (.ok ⟨header, body⟩) =>
    some (.request (.ok ⟨header.stream, header.function, body, .fromData driver.generation header⟩))
  | .request, .request (.error error) => some (.request (.error error))
  | .request, .requestTimedOut header =>
    some (.request (.error (.requestTimeout (.fromData driver.generation header))))
  | _, _ => none

/-- The token that `DeliverPrimary` mints for a capability. -/
def mint (driver : SessionDriver W κ) (header : DataHeader) (capability : ReplyCapabilityId) :
    ReplyToken :=
  ⟨driver.tokenOwner, capability, driver.generation, header.function.raw < 255⟩

/-- The commands in the table that Core does not own, in the order of their ids. -/
def orphaned (driver : SessionDriver W κ) : List CommandId :=
  driver.completions.keys.filter fun commandId => !driver.core.ownsCommand commandId

end SessionDriver

/-- A Driver under mutation together with the effects so far. -/
structure Round (W : Type u) (κ : Type v) where
  driver : SessionDriver W κ
  effects : List (DriverEffect κ)

namespace Round

/-- The beginning of an operation. -/
def start (driver : SessionDriver W κ) : Round W κ := ⟨driver, []⟩

/-- Appends an effect. -/
def emit (r : Round W κ) (effect : DriverEffect κ) : Round W κ :=
  { r with effects := r.effects ++ [effect] }

/-- A mutation of the Driver without an effect. -/
def update (r : Round W κ) (f : SessionDriver W κ → SessionDriver W κ) : Round W κ :=
  { r with driver := f r.driver }

/-- The Writer after one of its operations. -/
def setWriter (r : Round W κ) (writer : W) : Round W κ :=
  r.update fun driver => { driver with writer := writer }

/-- Calls a Core entry point.  The actions are left for the Driver to apply. -/
def callCore (r : Round W κ) (input : Input) : Round W κ × List CoreAction :=
  let turn := r.driver.core.handle input
  ((r.emit (.called r.driver.core input)).update fun driver => { driver with core := turn.core },
    turn.actions)

/-! ## Custody -/

/-- `command_bytes -= charge`: the effect `underflow` stands for a subtraction that would be
inexact. -/
def uncharge (r : Round W κ) (charge : ℕ) : Round W κ :=
  (if charge ≤ r.driver.commandBytes then r else r.emit .underflow).update fun driver =>
    { driver with commandBytes := driver.commandBytes - charge }

/-- `accepted_commands.pop_front` on a queue that begins with `accepted`, and its discharge. -/
def popCommand (r : Round W κ) (accepted : AcceptedCommand κ) : Round W κ :=
  (r.update fun driver =>
    { driver with acceptedCommands := driver.acceptedCommands.tail }).uncharge accepted.byteCharge

/-- Completes a command that Core has not taken. -/
def rejectCommand (r : Round W κ) (accepted : AcceptedCommand κ) (error : OperationError) :
    Round W κ :=
  r.emit (.complete accepted.completion (accepted.kind.rejected error))

/-- Completes one orphaned command, which Core does not own any more. -/
def settleOrphan (r : Round W κ) (commandId : CommandId) : Round W κ :=
  match r.driver.completions[commandId]? with
  | none => r
  | some pending =>
    (r.update fun driver =>
      { driver with completions := driver.completions.erase commandId }).emit
        (.complete pending.completion pending.kind.connectionLostResult)

/-- One iteration of the `while let` of `drain_accepted_commands`. -/
def drainCommand (r : Round W κ) (accepted : AcceptedCommand κ) : Round W κ :=
  (r.popCommand accepted).rejectCommand accepted .connectionLost

/-- `drain_accepted_commands`: completes the orphans and everything in the FIFO.  A command that
Core owns keeps its endpoint, for Core to settle. -/
def drainAcceptedCommands (r : Round W κ) : Round W κ :=
  let r := r.driver.orphaned.foldl settleOrphan r
  r.driver.acceptedCommands.foldl drainCommand r

/-! ## Closing -/

/-- `begin_closing`: the first call sets the reason; a later one can only remove the barrier. -/
def beginClosing (r : Round W κ) (reason : GenerationCloseReason) (barrier : CloseBarrier) :
    Round W κ :=
  match r.driver.closing with
  | some closing =>
    if barrier = .immediate then
      r.update fun driver => { driver with closing := some { closing with barrierWriteId := none } }
    else
      r
  | none =>
    (r.update fun driver => { driver with closing := some ⟨reason, barrier.writeId⟩ }).emit
      (.closing reason barrier)

/-- `satisfy_close_barrier`: the outcome of the write that the close waits for has come. -/
def satisfyCloseBarrier (r : Round W κ) (writeId : WriteId) : Round W κ :=
  match r.driver.closing with
  | some closing =>
    if closing.barrierWriteId = some writeId then
      r.update fun driver => { driver with closing := some { closing with barrierWriteId := none } }
    else
      r
  | none => r

/-- `finish_close_if_ready`: closes the transport, once, and drains, as soon as no barrier is
left. -/
def finishCloseIfReady (r : Round W κ) : Round W κ :=
  match r.driver.closing with
  | some ⟨_, none⟩ =>
    if r.driver.transportClosed then r
    else
      ((r.emit .closeTransport).update fun driver =>
        { driver with transportClosed := true }).drainAcceptedCommands
  | _ => r

variable [WriterIngress W]

/-! ## Action batches -/

/-- `DeliverPrimary` on a queue with room. -/
def deliver (r : Round W κ) (message : DataMessage) (capability : Option ReplyCapabilityId) :
    Round W κ :=
  let header := message.header
  let minted := capability.map (r.driver.mint header)
  let primary : InboundPrimary :=
    ⟨⟨header.stream, header.function, message.body⟩, (minted.map .reply).getD .data,
      .fromData r.driver.generation header⟩
  { driver := { r.driver with inbound := r.driver.inbound ++ [primary] }
    effects := r.effects ++ (minted.map .minted).toList }

/-- Records a frame that the Writer has taken. -/
def recordAdmission (r : Round W κ) (frame : OutboundFrame) :
    Round W κ × Option ActionApplicationFailure :=
  let r := r.emit (.admitted frame)
  if frame.writeId ∈ r.driver.admittedWrites then (r, some .duplicateOrUnknownCompletion)
  else
    (r.update fun driver =>
      { driver with admittedWrites := insert frame.writeId driver.admittedWrites }, none)

/-- `SendFrame`: what is left of the Data permit is returned with the result. -/
def sendFrame (r : Round W κ) (permit : Option (DataPermit W)) (frame : OutboundFrame) :
    Round W κ × Option (DataPermit W) × Option ActionApplicationFailure :=
  match frame.message with
  | .control _ =>
    match tryAdmit r.driver.writer frame with
    | (.error error, writer) =>
      (r.setWriter writer, permit, some (.controlWriteAdmission frame.writeId error))
    | (.ok (), writer) =>
      let (r, failure) := (r.setWriter writer).recordAdmission frame
      (r, permit, failure)
  | .data _ =>
    match permit with
    | none => (r, none, some (.missingOrMultipleDataFrame frame.writeId))
    | some permit =>
      match admitReservedData r.driver.writer permit frame with
      | (.error error, writer) =>
        (r.setWriter writer, none, some (.reservedDataAdmission frame.writeId error))
      | (.ok (), writer) =>
        let (r, failure) := (r.setWriter writer).recordAdmission frame
        (r, none, failure)

/-- `CompleteCommand`: the result leaves through the endpoint, which is then gone. -/
def completeCommand (r : Round W κ) (commandId : CommandId) (result : CoreCommandResult) :
    Round W κ × Option ActionApplicationFailure :=
  match r.driver.completions[commandId]? with
  | none => (r, some .duplicateOrUnknownCompletion)
  | some pending =>
    match r.driver.materializeResult pending.kind result with
    | none => (r, some .invalidCompletionResult)
    | some result =>
      ((r.update fun driver =>
        { driver with completions := driver.completions.erase commandId }).emit
          (.complete pending.completion result), none)

/-- One iteration of the loop of `apply_action_batch`. -/
def applyAction (r : Round W κ) (permit : Option (DataPermit W)) (action : CoreAction) :
    Round W κ × Option (DataPermit W) × Option ActionApplicationFailure :=
  match action with
  | .deliverPrimary message capability =>
    if r.driver.inbound.length ≥ r.driver.inboundCapacity then (r, permit, some .inboundFull)
    else (r.deliver message capability, permit, none)
  | .sendFrame writeId message => r.sendFrame permit ⟨writeId, message⟩
  | .sessionStateChanged state => (r.emit (.observe state), permit, none)
  | .completeCommand commandId result =>
    let (r, failure) := r.completeCommand commandId result
    (r, permit, failure)
  | .closeGeneration reason barrier => (r.beginClosing reason barrier, permit, none)

/-- The loop of `apply_action_batch`, which stops at the first action that fails. -/
def applyEach (r : Round W κ) (permit : Option (DataPermit W)) :
    List CoreAction → Round W κ × Option (DataPermit W) × Option ActionApplicationFailure
  | [] => (r, permit, none)
  | action :: actions =>
    match r.applyAction permit action with
    | (r, permit, some failure) => (r, permit, some failure)
    | (r, permit, none) => r.applyEach permit actions

/-- `apply_action_batch`: the actions in their order.  A permit that no frame has used is given
back. -/
def applyActionBatch (r : Round W κ) (actions : List CoreAction) (permit : Option (DataPermit W)) :
    Round W κ × Option ActionApplicationFailure :=
  match r.applyEach permit actions with
  | (r, none, failure) => (r, failure)
  | (r, some permit, failure) =>
    match releaseData r.driver.writer permit with
    | (.error error, writer) => (r.setWriter writer, some (.dataPermitRelease error))
    | (.ok (), writer) => (r.setWriter writer, failure)

/-- `shutdown_after_driver_failure`: shuts Core down for a failure of the Driver.  Core is not
called again if that fails too. -/
def shutdownAfterDriverFailure (r : Round W κ) (reason : GenerationCloseReason)
    (failedWriteId : Option WriteId) (now : MonoTime) : Round W κ :=
  let (r, actions) := r.callCore (.shutdown reason failedWriteId now)
  let (r, failure) := r.applyActionBatch actions none
  let r := if failure.isSome then r.beginClosing .runtimeInvariant .immediate else r
  r.beginClosing reason .immediate

/-- `handle_action_failure_with_reason`: a failure closes for its own reason, unless a reason was
there first. -/
def handleActionFailureWithReason (r : Round W κ) (failure : ActionApplicationFailure)
    (now : MonoTime) (firstReason : Option GenerationCloseReason) : Round W κ :=
  r.shutdownAfterDriverFailure (firstReason.getD failure.shutdown.1) failure.shutdown.2 now

/-- A batch with the handling of its failure; `handle_action_failure` gives no first reason. -/
def applyBatch (r : Round W κ) (actions : List CoreAction) (permit : Option (DataPermit W))
    (now : MonoTime) (firstReason : Option GenerationCloseReason) : Round W κ :=
  match r.applyActionBatch actions permit with
  | (r, none) => r
  | (r, some failure) => r.handleActionFailureWithReason failure now firstReason

/-- `apply_actions_without_finishing_close`: for calls that have something to do before the close
is finished. -/
def applyActionsWithoutFinishingClose (r : Round W κ) (actions : List CoreAction) (now : MonoTime) :
    Round W κ :=
  r.applyBatch actions none now none

/-- `apply_actions_with_data_permit`: for calls that may write the one Data frame for which room
was reserved. -/
def applyActionsWithDataPermit (r : Round W κ) (actions : List CoreAction)
    (permit : Option (DataPermit W)) (now : MonoTime) : Round W κ :=
  (r.applyBatch actions permit now none).finishCloseIfReady

/-- `apply_actions`: a batch, and then the close, if it is ready. -/
def applyActions (r : Round W κ) (actions : List CoreAction) (now : MonoTime) : Round W κ :=
  (r.applyActionsWithoutFinishingClose actions now).finishCloseIfReady

/-- `fail_runtime_invariant`: fails closed when there is no identity left for a command. -/
def failRuntimeInvariant (r : Round W κ) (now : MonoTime) : Round W κ :=
  let (r, actions) := r.callCore (.shutdown .runtimeInvariant none now)
  let r := r.applyActionsWithoutFinishingClose actions now
  (r.beginClosing .runtimeInvariant .immediate).finishCloseIfReady

/-- `process_due_deadlines`: whatever is due at the time of an input is processed before the
input. -/
def processDueDeadlines (r : Round W κ) (now : MonoTime) : Round W κ :=
  if r.driver.closing.isNone && r.driver.core.nextDeadline.any fun due => due ≤ now then
    let (r, actions) := r.callCore (.advanceTime now)
    r.applyActions actions now
  else
    r

/-! ## Admission -/

/-- A command enters the FIFO. -/
def enqueue (r : Round W κ) (command : AcceptedCommand κ) : Round W κ :=
  (r.update fun driver =>
    { driver with
      commandBytes := driver.commandBytes + command.byteCharge
      acceptedCommands := driver.acceptedCommands ++ [command] }).emit (.accepted command)

/-- `core_command_kind`: the control command of Core.  Every intent has one. -/
def coreCommandKind : ControlIntent → Option CoreCommandKind
  | .select => some .select
  | .deselect => some .deselect
  | .linktest => some .linktest
  | .separate => some .separate

/-- `try_accept_control`: the checks in their order.  A control command has no bytes. -/
def tryAcceptControl (r : Round W κ) (intent : ControlIntent) (completion : κ) : Round W κ :=
  if r.driver.closing.isSome then r.emit (.controlRefused .closing intent completion)
  else
    match coreCommandKind intent with
    | none => r.emit (.controlRefused .unsupportedIntent intent completion)
    | some kind =>
      if r.driver.shutdownDraining then r.emit (.controlRefused .draining intent completion)
      else if r.driver.acceptedCommands.length ≥ r.driver.commandCapacity then
        r.emit (.controlRefused .full intent completion)
      else
        r.enqueue ⟨0, .control kind, completion⟩

/-- `try_accept_data`, for `try_accept_send` and `try_accept_request`. -/
def tryAcceptData (r : Round W κ) (message : PrimaryMessage) (completion : κ)
    (replyExpected : Bool) : Round W κ :=
  if r.driver.closing.isSome then r.emit (.dataRefused .closing message completion)
  else if r.driver.shutdownDraining then r.emit (.dataRefused .draining message completion)
  else if r.driver.acceptedCommands.length ≥ r.driver.commandCapacity then
    r.emit (.dataRefused .full message completion)
  else
    match r.driver.commandCharge message.body with
    | .error error =>
      r.emit (.dataRefused (if error = .backpressure then .full else .invalid error) message
        completion)
    | .ok charge =>
      r.enqueue ⟨charge, if replyExpected then .request message else .send message, completion⟩

/-- The error of the checks of `try_accept_reply` that precede the charge, if any. -/
def replyError (driver : SessionDriver W κ) (intent : ReplyIntent) (token : ReplyToken) :
    Option OperationError :=
  if driver.closing.isSome then some .connectionLost
  else if intent ≠ .abandon ∧ driver.core.repliesBlocked then some .draining
  else if !token.belongsTo driver.tokenOwner driver.generation then some .replyCapabilityUnavailable
  else if intent = .secondary ∧ !token.normalSecondaryAvailable then some .replyRequiresAbort
  else if driver.acceptedCommands.length ≥ driver.commandCapacity then some .backpressure
  else none

/-- `try_accept_reply`: the state and the token first, then the bytes.  A refusal hands
everything back through the endpoint. -/
def tryAcceptReply (r : Round W κ) (intent : ReplyIntent) (token : ReplyToken)
    (body : Option SecsItem) (completion : κ) : Round W κ :=
  let kind := AcceptedCommandKind.reply intent token body
  match replyError r.driver intent token with
  | some error => r.emit (.replyRefused completion (kind.rejected error))
  | none =>
    match r.driver.commandCharge body with
    | .error error => r.emit (.replyRefused completion (kind.rejected error))
    | .ok charge => r.enqueue ⟨charge, kind, completion⟩

/-! ## Inputs -/

/-- `on_connected`: the transport is up. -/
def onConnected (r : Round W κ) (now : MonoTime) : Round W κ :=
  if r.driver.closing.isSome then r.emit (.returned false)
  else
    let (r, actions) := r.callCore (.connected now)
    (r.applyActions actions now).emit (.returned true)

/-- The end of `drive_next_command`: the command gets an id, its endpoint enters the table, and Core
takes it. -/
def presentCommand (r : Round W κ) (accepted : AcceptedCommand κ) (permit : Option (DataPermit W))
    (now : MonoTime) : Round W κ :=
  match r.driver.nextCommandId with
  | none =>
    let r := match permit with
      | some permit => r.setWriter (releaseData r.driver.writer permit).2
      | none => r
    (r.rejectCommand accepted .connectionLost).failRuntimeInvariant now
  | some value =>
    let r := r.update fun driver =>
      { driver with
        nextCommandId := u64CheckedSucc value
        completions := driver.completions.insert ⟨value⟩ accepted.pending }
    let r := r.emit (.presented ⟨value⟩ accepted)
    let (r, actions) := r.callCore (accepted.kind.coreInput ⟨value⟩ now)
    r.applyActionsWithDataPermit actions permit now

/-- The rest of `drive_next_command` once a command has been dequeued. -/
def driveCommand (r : Round W κ) (accepted : AcceptedCommand κ) (now : MonoTime) : Round W κ :=
  if accepted.kind.isFramedReply && r.driver.core.repliesBlocked then
    r.rejectCommand accepted .draining
  else if accepted.kind.requiresDataPermit then
    match tryReserveMessage r.driver.writer accepted.kind.body with
    | (.ok permit, writer) => (r.setWriter writer).presentCommand accepted (some permit) now
    | (.error .connectionLost, writer) =>
      (((r.setWriter writer).rejectCommand accepted .connectionLost).shutdownAfterDriverFailure
        .transportLost none now).finishCloseIfReady
    | (.error error, writer) => (r.setWriter writer).rejectCommand accepted error
  else
    r.presentCommand accepted none now

/-- `drive_next_command`: the first command of the FIFO goes to Core, behind the deadlines that
are due. -/
def driveNextCommand (r : Round W κ) (now : MonoTime) : Round W κ :=
  let r := r.processDueDeadlines now
  if r.driver.closing.isSome then r.emit (.returned false)
  else
    match r.driver.acceptedCommands with
    | [] => r.emit (.returned false)
    | accepted :: _ => ((r.popCommand accepted).driveCommand accepted now).emit (.returned true)

/-- `take_notice` with its report to the observer. -/
def takeNotice (r : Round W κ) : Round W κ :=
  match r.driver.core.notice with
  | none => r
  | some notice =>
    (r.update fun driver => { driver with core := driver.core.withoutNotice }).emit
      (.notice r.driver.generation notice)

/-- `on_message`: a message goes to Core, behind the deadlines that are due, and what Core has
noticed is reported. -/
def onMessage (r : Round W κ) (message : ProtocolMessage) (now : MonoTime) : Round W κ :=
  let r := r.processDueDeadlines now
  if r.driver.closing.isSome then r.emit (.returned false)
  else
    let (r, actions) := r.callCore (.message message now)
    (r.applyActions actions now).takeNotice.emit (.returned true)

/-- `on_shutdown`: closes at once, for this reason unless there is one. -/
def onShutdown (r : Round W κ) (reason : GenerationCloseReason) (failedWriteId : Option WriteId)
    (now : MonoTime) : Round W κ :=
  let (r, actions) := r.callCore (.shutdown reason failedWriteId now)
  let r := r.applyActionsWithoutFinishingClose actions now
  (r.beginClosing reason .immediate).finishCloseIfReady

/-- The end of `on_decode_step_with_header`, for a violation. -/
def onViolation (r : Round W κ) (violation : InboundViolation) (context : MessageContext)
    (kind : InboundViolationKind) (source : Option DecodeError)
    (rawHeader : Option (Vector UInt8 10)) (now : MonoTime) : Round W κ :=
  if r.driver.protocolErrors.length ≥ r.driver.protocolErrorCapacity then
    (r.onShutdown .applicationBackpressure none now).emit (.returned false)
  else
    let context := (rawHeader.map fun header => ⟨r.driver.generation, header⟩).getD context
    let r := r.update fun driver =>
      { driver with protocolErrors := driver.protocolErrors ++ [⟨context, kind, source⟩] }
    let (r, actions) := r.callCore (.inboundViolation violation now)
    (r.applyActions actions now).emit (.returned true)

/-- `on_decode_step_with_header`: what the codec has made of a frame, behind the deadlines that
are due. -/
def onDecodeStep (r : Round W κ) (step : HsmsSsDecodeStep) (rawHeader : Option (Vector UInt8 10))
    (now : MonoTime) : Round W κ :=
  match step with
  | .message message => r.onMessage message now
  | step =>
    let r := r.processDueDeadlines now
    if r.driver.closing.isSome then r.emit (.returned false)
    else
      match step with
      | .headerViolation violation =>
        r.onViolation (.header violation) ⟨r.driver.generation, violation.header.bytes⟩
          (.header violation.kind) none rawHeader now
      | .payloadViolation violation source =>
        r.onViolation (.payload violation) (.fromData r.driver.generation violation.header)
          (.payload violation.kind) (some source) rawHeader now
      | _ => (r.failRuntimeInvariant now).emit (.returned false)

/-- `on_write_outcome_at`: the fate of an admitted frame.  The deadlines that are due come first
only if it was committed, and the barrier is looked at last. -/
def onWriteOutcomeAt (r : Round W κ) (writeId : WriteId) (outcome : WriteOutcome)
    (occurredAt now : MonoTime) : Round W κ :=
  let r := if outcome = .committed then r.processDueDeadlines now else r
  let (r, actions) := r.callCore (.writeOutcome writeId outcome occurredAt now)
  let r := r.applyActionsWithoutFinishingClose actions now
  let r := (r.update fun driver =>
    { driver with admittedWrites := driver.admittedWrites.erase writeId }).emit
      (.settledWrite writeId)
  (r.satisfyCloseBarrier writeId).finishCloseIfReady

/-- `begin_shutdown_drain`: from here on nothing is accepted but replies. -/
def beginShutdownDrain (r : Round W κ) : Round W κ :=
  r.update fun driver => { driver with shutdownDraining := true }

/-- `finish_shutdown_drain`: the end of a graceful close, whose reason is the first one. -/
def finishShutdownDrain (r : Round W κ) (reason : GenerationCloseReason) (now : MonoTime) :
    Round W κ :=
  let (r, actions) := r.beginShutdownDrain.callCore (.finishShutdownDrain reason now)
  (r.applyBatch actions none now (some reason)).finishCloseIfReady

/-- `advance_time`: processes the deadlines that have run out. -/
def advanceTime (r : Round W κ) (now : MonoTime) : Round W κ :=
  if r.driver.closing.isSome then r.emit (.returned false)
  else
    let (r, actions) := r.callCore (.advanceTime now)
    (r.applyActions actions now).emit (.returned true)

/-- `set_delivery_capacity`: the room that the application has left, which bounds the two queues. -/
def setDeliveryCapacity (r : Round W κ) (primaries errors : ℕ) : Round W κ :=
  r.update fun driver =>
    { driver with inboundCapacity := primaries, protocolErrorCapacity := errors }

/-- `take_inbound`: hands over the first Primary, if there is one. -/
def takeInbound (r : Round W κ) : Round W κ :=
  (r.update fun driver => { driver with inbound := driver.inbound.tail }).emit
    (.takenInbound r.driver.inbound.head?)

/-- `take_protocol_error`: hands over the first report, if there is one. -/
def takeProtocolError (r : Round W κ) : Round W κ :=
  (r.update fun driver => { driver with protocolErrors := driver.protocolErrors.tail }).emit
    (.takenError r.driver.protocolErrors.head?)

/-- `on_writer_stopped`: the last call.  No outcome comes any more, so Core is finalized, every
barrier falls, and everything is drained. -/
def onWriterStopped (r : Round W κ) (now : MonoTime) : Round W κ :=
  let r := if r.driver.closing.isNone then r.onShutdown .runtimeInvariant none now else r
  let (r, actions) := r.callCore (.finalizeWriter now)
  let r := r.applyActionsWithoutFinishingClose actions now
  let r := r.update fun driver =>
    { driver with
      admittedWrites := ∅
      closing := driver.closing.map fun closing => { closing with barrierWriteId := none } }
  r.finishCloseIfReady.drainAcceptedCommands

end Round

/-! ## The machine -/

/-- One call of the Driver with its arguments. -/
inductive DriverInput (κ : Type v) where
  | acceptControl (intent : ControlIntent) (completion : κ)
  | acceptSend (message : PrimaryMessage) (completion : κ)
  | acceptRequest (message : PrimaryMessage) (completion : κ)
  | acceptReply (intent : ReplyIntent) (token : ReplyToken) (body : Option SecsItem)
      (completion : κ)
  | connected (now : MonoTime)
  | driveNextCommand (now : MonoTime)
  | decoded (step : HsmsSsDecodeStep) (rawHeader : Option (Vector UInt8 10)) (now : MonoTime)
  | writeOutcome (writeId : WriteId) (outcome : WriteOutcome) (occurredAt now : MonoTime)
  | beginShutdownDrain
  | finishShutdownDrain (reason : GenerationCloseReason) (now : MonoTime)
  | shutdown (reason : GenerationCloseReason) (failedWriteId : Option WriteId) (now : MonoTime)
  | advanceTime (now : MonoTime)
  | setDeliveryCapacity (primaries errors : ℕ)
  | takeInbound
  | takeProtocolError
  | writerStopped (now : MonoTime)

namespace SessionDriver

variable [WriterIngress W]

/-- The operation that an input calls. -/
def perform (r : Round W κ) : DriverInput κ → Round W κ
  | .acceptControl intent completion => r.tryAcceptControl intent completion
  | .acceptSend message completion => r.tryAcceptData message completion false
  | .acceptRequest message completion => r.tryAcceptData message completion true
  | .acceptReply intent token body completion => r.tryAcceptReply intent token body completion
  | .connected now => r.onConnected now
  | .driveNextCommand now => r.driveNextCommand now
  | .decoded step rawHeader now => r.onDecodeStep step rawHeader now
  | .writeOutcome writeId outcome occurredAt now =>
    r.onWriteOutcomeAt writeId outcome occurredAt now
  | .beginShutdownDrain => r.beginShutdownDrain
  | .finishShutdownDrain reason now => r.finishShutdownDrain reason now
  | .shutdown reason failedWriteId now => r.onShutdown reason failedWriteId now
  | .advanceTime now => r.advanceTime now
  | .setDeliveryCapacity primaries errors => r.setDeliveryCapacity primaries errors
  | .takeInbound => r.takeInbound
  | .takeProtocolError => r.takeProtocolError
  | .writerStopped now => r.onWriterStopped now

/-- The Driver as a machine. -/
def machine : Machine (SessionDriver W κ) (DriverInput κ) (DriverEffect κ) where
  step driver input :=
    let r := perform (.start driver) input
    (r.driver, r.effects)

end SessionDriver

end Hsms
end SecsRust
