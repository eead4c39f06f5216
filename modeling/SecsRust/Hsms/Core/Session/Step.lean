import SecsRust.Hsms.Core.Session.Receive

/-!
# The inputs of the Core

The entry points of `SessionCore`, and the Core as one deterministic machine: an input and a
Core determine the next Core and the batch of actions returned to the Driver
(`SessionCore.handle`).

An `Input` is one call of one entry point with its arguments, so a run of the Core is a list
of inputs, and a property of every run is a property of every list.  No order of calls is
assumed.  In particular a write outcome may name a write that was never tracked, time may
regress, and a command may come again with an identifier that is in use; the source checks
for each of these, and so does the model.

Two entry points take a command before they look at anything else: `onCommand` and `onReply`
insert it into the open commands and go on from there, so that every path out of them has a
command to complete. `onWriteOutcomeAt` is the longest of them and is cut as the source is,
into the match on the outcome (`resolveWrite`), the release of a parked error
(`releasedError`) and the rest (`settleWrite`).
-/

namespace SecsRust
namespace Hsms

open Std Secs2

/-- One call of a `SessionCore` entry point with its arguments.  A run of a Core is a list of
these. -/
inductive Input where
  | connected (now : MonoTime)
  | command (command : CoreCommand) (now : MonoTime)
  | message (message : ProtocolMessage) (now : MonoTime)
  | inboundViolation (violation : InboundViolation) (now : MonoTime)
  | reply (commandId : CommandId) (capability : ReplyCapabilityId) (intent : ReplyIntent)
      (body : Option SecsItem) (now : MonoTime)
  | writeOutcome (writeId : WriteId) (outcome : WriteOutcome) (occurredAt now : MonoTime)
  | shutdown (reason : GenerationCloseReason) (failedWriteId : Option WriteId) (now : MonoTime)
  | finishShutdownDrain (reason : GenerationCloseReason) (now : MonoTime)
  | advanceTime (now : MonoTime)
  | finalizeWriter (now : MonoTime)

/-- The logical time at which the entry point is called. -/
def Input.now : Input → MonoTime
  | .connected now | .command _ now | .message _ now | .inboundViolation _ now
  | .reply _ _ _ _ now | .writeOutcome _ _ _ now | .shutdown _ _ now
  | .finishShutdownDrain _ now | .advanceTime now | .finalizeWriter now => now

/-- The class under which a command stays open. -/
def CoreCommandKind.openKind : CoreCommandKind → OpenCommandKind
  | .send _ => .send
  | .request _ => .request
  | .select | .deselect | .linktest | .separate => .control

/-- The commands that a pending Deselect drain refuses. -/
def CoreCommandKind.isTransactional : CoreCommandKind → Bool
  | .select | .deselect | .linktest => true
  | .send _ | .request _ | .separate => false

/-- The class under which a reply intent stays open. -/
def ReplyIntent.openKind (intent : ReplyIntent) : OpenCommandKind :=
  if intent = .abandon then .control else .send

namespace SessionCore

/-- `open_commands.insert` for a command not yet open. -/
def accept (core : SessionCore) (commandId : CommandId) (kind : OpenCommandKind) : SessionCore :=
  { core with openCommands := core.openCommands.insert commandId kind }

/-- `on_connected`: the first input of a generation.  The session is not selected, and T7 and the
idle probe are armed. -/
def onConnected (core : SessionCore) (now : MonoTime) : Turn :=
  match (Turn.start core).acceptTime now with
  | (t, false) => t
  | (t, true) =>
    if t.core.state.isSome || t.core.closing then
      t.failRuntimeInvariant
    else
      let t := t.update fun core => { core with state := some .notSelected }
      let t := t.armSelectionTimeout now
      let t := t.recordActivity now
      if t.core.closing then t else t.push (.sessionStateChanged .notSelected)

/-- `on_command`: one local command that the Driver has accepted.  It is open from here on, so
every refusal below is a completion. -/
def onCommand (core : SessionCore) (command : CoreCommand) (now : MonoTime) : Turn :=
  let commandId := command.commandId
  if core.openCommands.contains commandId then
    (Turn.start core).failRuntimeInvariant
  else
    match (Turn.start (core.accept commandId command.kind.openKind)).acceptTime now with
    | (t, false) => t
    | (t, true) =>
      if t.core.state.isNone then
        t.completeError commandId .notConnected
      else if t.core.closing then
        t.completeError commandId .connectionLost
      else if t.core.deselectDrain.isSome && command.kind.isTransactional then
        t.completeError commandId .controlBusy
      else
        match command.kind with
        | .deselect => t.startDeselect commandId now
        | .select => t.startSelect commandId
        | .linktest => t.startLinktest commandId
        | .separate => t.startSeparate (some commandId) .localSeparate
        | .send primary => t.startData commandId primary false
        | .request primary => t.startData commandId primary true

/-- The match of `on_message` on the received message. -/
def receive (t : Turn) (message : ProtocolMessage) (now : MonoTime) : Turn :=
  match message with
  | .control (.selectRequest sessionId systemBytes) => t.receiveSelectRequest sessionId systemBytes
  | .control (.selectResponse sessionId status systemBytes) =>
    t.receiveSelectResponse sessionId status systemBytes
  | .control (.linktestRequest systemBytes) => t.sendResponse (.linktestResponse systemBytes)
  | .control (.linktestResponse systemBytes) => t.receiveLinktestResponse systemBytes
  | .control (.rejectRequest sessionId headerByte2 reason systemBytes) =>
    let (t, classification) := t.receiveReject sessionId headerByte2 reason systemBytes
    t.update fun core =>
      { core with notice := some (.peerReject ⟨reason, Turn.rejectDisposition classification⟩) }
  | .control (.separateRequest _ _) => t.receiveSeparate
  | .data message => t.receiveInboundData message
  | .control (.deselectRequest sessionId systemBytes) =>
    t.receiveDeselectRequest sessionId systemBytes now
  | .control (.deselectResponse sessionId status systemBytes) =>
    t.receiveDeselectResponse sessionId status systemBytes now

/-- `on_message`: one message of the peer.  It counts as activity, and what it releases may let a
waiting Deselect go on. -/
def onMessage (core : SessionCore) (message : ProtocolMessage) (now : MonoTime) : Turn :=
  match (Turn.start { core with notice := none }).acceptTime now with
  | (t, false) => t
  | (t, true) =>
    if t.core.state.isNone || t.core.closing then
      t
    else
      let t := t.recordActivity now
      if t.core.closing then t else (receive t message now).progressDeselect now

/-- The Reject that answers a header violation, if its kind calls for one. -/
def violationReject (violation : InboundViolation) : Option ControlMessage :=
  match violation with
  | .header ⟨header, .unknownSessionType _⟩ =>
    some (.rejectRequest header.sessionId header.sType .unsupportedStype ⟨header.systemBytes⟩)
  | .header ⟨header, .unknownPresentationType _⟩ =>
    some (.rejectRequest header.sessionId header.pType .unsupportedPtype ⟨header.systemBytes⟩)
  | _ => none

/-- `on_inbound_violation`: a frame that could not be interpreted is answered with a Reject where
E37 has one for it. -/
def onInboundViolation (core : SessionCore) (violation : InboundViolation) (now : MonoTime) :
    Turn :=
  match (Turn.start core).acceptTime now with
  | (t, false) => t
  | (t, true) =>
    if t.core.state.isNone || t.core.closing then
      t
    else
      match violationReject violation with
      | some message => t.sendResponse message
      | none => t

/-- `on_reply`: the one answer to an inbound Primary, named by its capability.  Once it is found
it is consumed, whatever becomes of the answer. -/
def onReply (core : SessionCore) (commandId : CommandId) (capability : ReplyCapabilityId)
    (intent : ReplyIntent) (body : Option SecsItem) (now : MonoTime) : Turn :=
  if core.openCommands.contains commandId then
    (Turn.start core).failRuntimeInvariant
  else
    match (Turn.start (core.accept commandId intent.openKind)).acceptTime now with
    | (t, false) => t
    | (t, true) =>
      if t.core.closing ∨ t.core.state ≠ some .selected then
        t.completeError commandId .replyCapabilityUnavailable
      else if intent ≠ .abandon ∧ t.core.repliesBlocked then
        t.completeError commandId .draining
      else
        match t.core.replyContracts[capability]? with
        | none => t.completeError commandId .replyCapabilityUnavailable
        | some primary =>
          let t := t.update fun core =>
            { core with replyContracts := core.replyContracts.erase capability }
          if intent = .abandon then
            (t.completeOk commandId).progressDeselect now
          else
            let reply : Option (Function × Option SecsItem) :=
              if intent = .abort then some (⟨0⟩, none)
              else (ResponseContract.succFunction primary.function).map fun function =>
                (function, body)
            match reply with
            | none => t.completeError commandId .replyRequiresAbort
            | some (function, body) =>
              match t.core.allocateWriteId with
              | none => t.failRuntimeInvariant
              | some (writeId, core) =>
                { t with core := core }.sendFrame writeId
                  ⟨.dataSend ⟨primary.sessionId, primary.systemBytes⟩, some commandId⟩
                  (.data ⟨⟨primary.sessionId, primary.stream, function, false,
                    primary.systemBytes⟩, body⟩)

end SessionCore

namespace Turn

/-- The `Committed` arm of `on_write_outcome_at`. -/
def commitWrite (t : Turn) (writeId : WriteId) (write : PendingWrite) (occurredAt : MonoTime) :
    Turn :=
  match write.kind with
  | .transactionRequest =>
    match t.core.activeTransaction with
    | some transaction =>
      if transaction.writeId = writeId then
        let deadline := occurredAt.checkedAdd t.core.config.timeouts.t6
        let t := t.update fun core =>
          { core with activeTransaction := some { transaction with deadline := deadline } }
        if deadline.isNone then t.noteOverflow.failRuntimeInvariant else t
      else
        t
    | none => t
  | .dataSend _ =>
    match write.commandId with
    | some commandId => t.completeSend commandId (.ok ⟨writeId⟩)
    | none => t
  | .dataRequest systemBytes =>
    match t.core.dataTransactions[systemBytes]? with
    | some transaction =>
      if transaction.writeId = writeId then
        let deadline := occurredAt.checkedAdd t.core.config.timeouts.t3
        let t := t.update fun core =>
          { core with
            dataTransactions :=
              core.dataTransactions.insert systemBytes { transaction with deadline := deadline } }
        if deadline.isNone then t.noteOverflow.failRuntimeInvariant else t
      else
        t
    | none => t
  | .separate =>
    match write.commandId with
    | some commandId => t.completeControl commandId (.ok ())
    | none => t
  | .response => t

/-- The outcome match of `on_write_outcome_at`. -/
def resolveWrite (t : Turn) (writeId : WriteId) (write : PendingWrite) (outcome : WriteOutcome)
    (occurredAt : MonoTime) : Turn :=
  match outcome with
  | .committed => t.commitWrite writeId write occurredAt
  | .notWritten _ => t.finishFailedWrite writeId write .connectionLost
  | .indeterminate _ => t.finishFailedWrite writeId write .deliveryIndeterminate

/-- The deferred error that a `Committed` outcome releases: only a control or Data request can
have parked one that its commit does not override. -/
def releasedError (core : SessionCore) (write : PendingWrite) (outcome : WriteOutcome) :
    Option (CommandId × OperationError) :=
  match outcome, write.kind, write.commandId with
  | .committed, .transactionRequest, some commandId =>
    core.deferredErrors[commandId]?.map fun error => (commandId, error)
  | .committed, .dataRequest _, some commandId =>
    core.deferredErrors[commandId]?.map fun error => (commandId, error)
  | _, _, _ => none

/-- The rest of `on_write_outcome_at` once the write has left `pending_writes`: a released error
ends the round early, otherwise the outcome takes effect and the due deadlines expire. -/
def settleWrite (t : Turn) (writeId : WriteId) (write : PendingWrite) (outcome : WriteOutcome)
    (occurredAt now : MonoTime) : Turn :=
  match releasedError t.core write outcome with
  | some (commandId, error) =>
    (t.update fun core =>
      { core with deferredErrors := core.deferredErrors.erase commandId }).completeError
        commandId error
  | none => (t.resolveWrite writeId write outcome occurredAt).expireDeadlines now

/-- The closing branch of `finalize_writer`: the drained writes are visited in WriteId order. -/
def finalize (t : Turn) : Turn :=
  let writes := t.core.pendingWrites.toList.map Prod.snd
  let t := t.update fun core => { core with pendingWrites := ∅ }
  let t := writes.foldl (fun t write =>
    match write.commandId with
    | some commandId => t.completeError commandId .deliveryIndeterminate
    | none => t) t
  t.completeAll .connectionLost

end Turn

namespace SessionCore

/-- `on_write_outcome_at`: the Writer reports the fate of one frame, and when it was decided.  A
report without a pending write, or from the future, fails the generation. -/
def onWriteOutcomeAt (core : SessionCore) (writeId : WriteId) (outcome : WriteOutcome)
    (occurredAt now : MonoTime) : Turn :=
  match (Turn.start core).acceptTime now with
  | (t, false) => t
  | (t, true) =>
    if now < occurredAt then
      t.failRuntimeInvariant
    else
      match t.core.pendingWrites[writeId]? with
      | none => t.failRuntimeInvariant
      | some write =>
        let t := t.update fun core =>
          { core with pendingWrites := core.pendingWrites.erase writeId }
        let t := if outcome = .committed ∧ !t.core.closing then t.recordActivity occurredAt else t
        t.settleWrite writeId write outcome occurredAt now

/-- `on_shutdown`: the Driver ends the generation.  Where the cause is a frame that could not be
admitted, its write is withdrawn first, and the rest is closed by hand. -/
def onShutdown (core : SessionCore) (reason : GenerationCloseReason)
    (failedWriteId : Option WriteId) (now : MonoTime) : Turn :=
  match (Turn.start core).acceptTime now with
  | (t, false) => t
  | (t, true) =>
    match failedWriteId with
    | some writeId =>
      match t.core.pendingWrites[writeId]? with
      | none => t.failRuntimeInvariant
      | some write =>
        let t := t.update fun core =>
          { core with pendingWrites := core.pendingWrites.erase writeId }
        let t := t.update fun core => core.removeTransactionForWrite writeId write.kind
        let t := match write.commandId with
          | some commandId =>
            t.completeError commandId
              (if reason = GenerationCloseReason.controlBackpressure then .backpressure
                else .connectionLost)
          | none => t
        let t := t.completeAll .connectionLost
        (t.update fun core => { core with closing := true, closeActionIssued := true }).push
          (.closeGeneration reason .immediate)
    | none => (t.completeAll .connectionLost).requestClose reason .immediate

/-- `finish_shutdown_drain`: the end of a graceful close.  A selected session says Separate; any
other is shut down. -/
def finishShutdownDrain (core : SessionCore) (reason : GenerationCloseReason) (now : MonoTime) :
    Turn :=
  if core.state ≠ some .selected ∨ core.closing then
    core.onShutdown reason none now
  else
    match (Turn.start core).acceptTime now with
    | (t, false) => t
    | (t, true) => t.startSeparate none reason

/-- `advance_time`: processes every deadline that has run out. -/
def advanceTime (core : SessionCore) (now : MonoTime) : Turn :=
  match (Turn.start core).acceptTime now with
  | (t, false) => t
  | (t, true) => t.expireDeadlines now

/-- `finalize_writer`: the Writer has stopped, so no further outcome will come.  What is left
open is completed; it presupposes a closing Core. -/
def finalizeWriter (core : SessionCore) (now : MonoTime) : Turn :=
  match (Turn.start core).acceptTime now with
  | (t, false) => t
  | (t, true) =>
    if !t.core.closing then
      t.failRuntimeInvariant
    else
      t.finalize

/-! ## The machine -/

/-- One input round: the entry point of the input. -/
def handle (core : SessionCore) : Input → Turn
  | .connected now => core.onConnected now
  | .command command now => core.onCommand command now
  | .message message now => core.onMessage message now
  | .inboundViolation violation now => core.onInboundViolation violation now
  | .reply commandId capability intent body now => core.onReply commandId capability intent body now
  | .writeOutcome writeId outcome occurredAt now =>
    core.onWriteOutcomeAt writeId outcome occurredAt now
  | .shutdown reason failedWriteId now => core.onShutdown reason failedWriteId now
  | .finishShutdownDrain reason now => core.finishShutdownDrain reason now
  | .advanceTime now => core.advanceTime now
  | .finalizeWriter now => core.finalizeWriter now

end SessionCore

end Hsms
end SecsRust
