import SecsRust.Hsms.Core.Session.Control

/-!
# Inbound messages

The `receive_*` functions of `session.rs`, `session/deselect.rs` and `session/inbound.rs`:
what one structurally valid peer message does to the Core.  Validation of the header has
been done by the codec; what is decided here is whether the message belongs to anything that
is alive.

Each function asks its questions in the order of the source, because the answer to the peer
depends on it. A Select or Deselect request with the wrong session is answered before the
state is looked at (`receiveSelectRequest`, `receiveDeselectRequest`).  A Data message is
first a possible Secondary, matched by System Bytes and then by the whole contract, and only
then a Primary (`receiveData`, `receiveInboundData`).  A Reject names one of three kinds of
targets, and is attributed only where the three together have exactly one (`rejectTargets`,
`receiveReject`).

A message that belongs to nothing leaves a notice, which the Driver turns into a diagnostic,
and never ends the generation.
-/

namespace SecsRust
namespace Hsms

open Std Secs2

namespace Turn

/-! ## Data -/

/-- Consumes a live Request whose contract matched: the transaction becomes a tombstone. -/
def retireTransaction (t : Turn) (transaction : DataTransaction) (systemBytes : SystemBytes) :
    Turn :=
  t.update fun core =>
    { core with
      dataTransactions := core.dataTransactions.erase systemBytes
      tombstones := core.tombstones.insert transaction.responseContract }

/-- `receive_data`: matches one inbound Data message against a live Request or tombstone. -/
def receiveData (t : Turn) (message : DataMessage) : Turn × DataInputClassification :=
  let systemBytes := message.header.systemBytes
  match t.core.dataTransactions[systemBytes]? with
  | none =>
    (t, if t.core.tombstones.containsMessage message then .retainedTombstone else .unmatched)
  | some transaction =>
    match transaction.responseContract.classify message with
    | .mismatch => (t, .liveMismatch)
    | .normal =>
      ((t.retireTransaction transaction systemBytes).completeRequest transaction.commandId
        (.ok ⟨message.header, message.body⟩), .matchedSecondary)
    | .abort =>
      ((t.retireTransaction transaction systemBytes).completeRequest transaction.commandId
        (.error (.protocol .transactionAborted)), .matchedAbort)

/-- `receive_inbound_data`: routes a Data frame by session, response role and Primary parity. -/
def receiveInboundData (t : Turn) (message : DataMessage) : Turn :=
  let header := message.header
  if t.core.state ≠ some .selected ∨ header.sessionId ≠ t.core.config.sessionId then
    t.sendResponse (.rejectRequest header.sessionId.raw 0 .entityNotSelected header.systemBytes)
  else if header.function.raw &&& 1 = 0 then
    let (t, classification) := t.receiveData message
    t.update fun core =>
      { core with
        notice := match classification with
          | .liveMismatch => some .secondaryMismatch
          | .retainedTombstone => some .staleEventIgnored
          | .unmatched => some .unmatchedSecondary
          | _ => none }
  else if t.core.replyContracts.toList.any fun (_, live) =>
    live.systemBytes = header.systemBytes then
    (t.completeAll .connectionLost).requestClose .protocolViolation .immediate
  else if header.replyExpected then
    if t.core.replyContracts.size ≥ t.core.config.replyCapacity then
      (t.completeAll .connectionLost).requestClose .applicationBackpressure .immediate
    else
      match t.core.nextReplyId with
      | none => t.failRuntimeInvariant
      | some raw =>
        (t.update fun core =>
          { core with
            nextReplyId := u64CheckedSucc raw
            replyContracts := core.replyContracts.insert ⟨raw⟩ header }).push
          (.deliverPrimary message (some ⟨raw⟩))
  else
    t.push (.deliverPrimary message none)

/-! ## Selection -/

/-- `receive_select_request`: SessionID-first readiness rules. -/
def receiveSelectRequest (t : Turn) (sessionId : UInt16) (systemBytes : SystemBytes) : Turn :=
  let (t, status) :=
    if sessionId ≠ controlSessionId then
      (t, SelectStatus.notReady)
    else if t.core.state = some .selected then
      (t, SelectStatus.alreadyActive)
    else
      (t.update fun core => { core with state := some .selected, selectionDeadline := none },
        SelectStatus.success)
  let t := t.sendResponse (.selectResponse sessionId status systemBytes)
  if status.IsSuccess ∧ !t.core.closing then t.push (.sessionStateChanged .selected) else t

/-- `receive_select_response`: it has to answer the live Select in session and System Bytes, or
it is rejected.  Success selects the session unless the peer has selected it meanwhile. -/
def receiveSelectResponse (t : Turn) (sessionId : UInt16) (status : SelectStatus)
    (systemBytes : SystemBytes) : Turn :=
  match t.core.activeTransaction with
  | none => t.sendTransactionNotOpenReject sessionId 2 systemBytes
  | some transaction =>
    if transaction.kind ≠ .select ∨ transaction.sessionId ≠ sessionId ∨
        transaction.systemBytes ≠ systemBytes then
      t.sendTransactionNotOpenReject sessionId 2 systemBytes
    else
      let t := t.update fun core => { core with activeTransaction := none }
      if h : status.IsSuccess then
        let t :=
          if t.core.state ≠ some .selected then
            (t.update fun core =>
              { core with state := some .selected, selectionDeadline := none }).push
                (.sessionStateChanged .selected)
          else
            t
        t.completeControlTransaction transaction (.ok ())
      else
        t.completeControlTransaction transaction (.error (.selectRejected ⟨status.raw, h⟩))

/-- `receive_linktest_response`: it has to answer the live Linktest, or it is rejected. -/
def receiveLinktestResponse (t : Turn) (systemBytes : SystemBytes) : Turn :=
  match t.core.activeTransaction with
  | none => t.sendTransactionNotOpenReject controlSessionId 6 systemBytes
  | some transaction =>
    if transaction.kind ≠ .linktest ∨ transaction.sessionId ≠ controlSessionId ∨
        transaction.systemBytes ≠ systemBytes then
      t.sendTransactionNotOpenReject controlSessionId 6 systemBytes
    else
      (t.update fun core => { core with activeTransaction := none }).completeControlTransaction
        transaction (.ok ())

/-- `receive_deselect_request`: session identity first, then live Data occupancy. -/
def receiveDeselectRequest (t : Turn) (sessionId : UInt16) (systemBytes : SystemBytes)
    (now : MonoTime) : Turn :=
  let status : DeselectStatus :=
    if sessionId ≠ controlSessionId ∨ t.core.state ≠ some .selected then .notSelected
    else if t.core.dataInUse then .busy
    else .success
  let t := t.sendResponse (.deselectResponse sessionId status systemBytes)
  if status.IsSuccess ∧ !t.core.closing then t.commitDeselection now else t

/-- `receive_deselect_response`: matches the complete local response tuple. -/
def receiveDeselectResponse (t : Turn) (sessionId : UInt16) (status : DeselectStatus)
    (systemBytes : SystemBytes) (now : MonoTime) : Turn :=
  match t.core.activeTransaction.filter fun transaction =>
      transaction.kind = .deselect ∧ transaction.sessionId = sessionId ∧
        transaction.systemBytes = systemBytes with
  | none => t.sendTransactionNotOpenReject sessionId 4 systemBytes
  | some transaction =>
    let t := t.update fun core => { core with activeTransaction := none }
    if h : status.IsSuccess then
      (t.commitDeselection now).completeControlTransaction transaction (.ok ())
    else
      t.completeControlTransaction transaction (.error (.deselectRejected ⟨status.raw, h⟩))

/-! ## Reject and Separate -/

/-- The Reject names the active control transaction: Header Byte 2 is its SType, or its PType for
reason 2. -/
def namesControl (transaction : ControlTransaction) (sessionId : UInt16) (headerByte2 : UInt8)
    (reason : RejectReason) (systemBytes : SystemBytes) : Bool :=
  let expectedHeaderByte2 :=
    if reason = .unsupportedPtype then 0 else transaction.kind.requestStype
  transaction.sessionId = sessionId ∧ transaction.systemBytes = systemBytes ∧
    headerByte2 = expectedHeaderByte2

/-- The active control transaction, if the Reject names it. -/
def controlTargets (core : SessionCore) (sessionId : UInt16) (headerByte2 : UInt8)
    (reason : RejectReason) (systemBytes : SystemBytes) : List RejectTarget :=
  match core.activeTransaction with
  | none => []
  | some transaction =>
    if namesControl transaction sessionId headerByte2 reason systemBytes then
      [.control transaction]
    else
      []

/-- The live Data Requests that the Reject names. -/
def requestTargets (core : SessionCore) (sessionId : UInt16) (headerByte2 : UInt8)
    (reason : RejectReason) (systemBytes : SystemBytes) : List RejectTarget :=
  core.dataTransactions.toList.filterMap fun (_, transaction) =>
    if transaction.responseContract.matchesReject sessionId headerByte2 reason systemBytes then
      some (.dataRequest transaction)
    else
      none

/-- The pending Data Sends with an open command that the Reject names. -/
def sendTargets (core : SessionCore) (sessionId : UInt16) (headerByte2 : UInt8)
    (reason : RejectReason) (systemBytes : SystemBytes) : List RejectTarget :=
  core.pendingWrites.toList.filterMap fun (_, write) =>
    match write.kind, write.commandId with
    | .dataSend correlation, some commandId =>
      if correlation.matchesReject sessionId headerByte2 reason systemBytes then
        some (.dataSend commandId)
      else
        none
    | _, _ => none

/-- The live targets that one base-standard Reject names. -/
def rejectTargets (core : SessionCore) (sessionId : UInt16) (headerByte2 : UInt8)
    (reason : RejectReason) (systemBytes : SystemBytes) : List RejectTarget :=
  controlTargets core sessionId headerByte2 reason systemBytes ++
    requestTargets core sessionId headerByte2 reason systemBytes ++
    sendTargets core sessionId headerByte2 reason systemBytes

/-- The live operation named by a Reject completes with `PeerRejected`. -/
def rejectTarget (t : Turn) (reason : RejectReason) (target : RejectTarget) : Turn :=
  match target with
  | .control transaction =>
    (t.update fun core => { core with activeTransaction := none }).completeControlTransaction
      transaction (.error (.peerRejected reason))
  | .dataRequest transaction =>
    (t.retireTransaction transaction transaction.responseContract.systemBytes).completeError
      transaction.commandId (.peerRejected reason)
  | .dataSend commandId => t.completeError commandId (.peerRejected reason)

/-- `receive_reject`: attributes a base-standard peer Reject to exactly one live operation. -/
def receiveReject (t : Turn) (sessionId : UInt16) (headerByte2 : UInt8) (reason : RejectReason)
    (systemBytes : SystemBytes) : Turn × RejectInputClassification :=
  if ¬ reason.IsBaseStandard then
    (t, .extensionReason)
  else
    match rejectTargets t.core sessionId headerByte2 reason systemBytes with
    | [] =>
      (t, if t.core.tombstones.containsReject sessionId headerByte2 reason systemBytes then
        .retainedTombstone else .unmatched)
    | [target] =>
      (t.rejectTarget reason target, match target with
        | .control ⟨_, none, _, _, _, _⟩ => .matchedAutonomousOperation
        | _ => .matchedLiveOperation)
    | _ => (t, .ambiguous)

/-- The disposition reported for a Reject classification. -/
def rejectDisposition : RejectInputClassification → PeerRejectDisposition
  | .matchedLiveOperation => .operationRejected
  | .matchedAutonomousOperation => .autonomousRejected
  | .retainedTombstone => .late
  | .unmatched => .unknown
  | .extensionReason => .unsupportedExtension
  | .ambiguous => .ambiguous

/-- `receive_separate`: applies peer Separate in Selected and ignores it in NotSelected. -/
def receiveSeparate (t : Turn) : Turn :=
  if t.core.state ≠ some .selected then
    t
  else
    let t := t.update fun core => { core with state := some .notSelected }
    let t := t.abortTransaction
    let t := t.completeDataForDeselection
    (t.push (.sessionStateChanged .notSelected)).requestClose .separateReceived .immediate

end Turn

end Hsms
end SecsRust
