import SecsRust.Lib.TreeMap
import SecsRust.Hsms.Core.Transaction
import SecsRust.Hsms.Core.Action

/-!
# The state of one Session Core

The records of `hsms/core/session.rs` and `hsms/core/session/deselect.rs`, and the working
state of one input round.  The Core is the part of the repository that decides: it has no
clock, no transport and no tasks, and is called with one input at a time and the time at
which it comes.

Both kinds of Rust map are ordered maps here: a `BTreeMap` is visited in key order, and
wherever the source visits a `HashMap` it either sorts what it collected or uses it in a way
that does not depend on the order.  The tables refer to one another by command, write and
transaction identifiers, and nothing in these definitions says that the references are
sound; that is the invariant of `Coherent`.

A round works on a `Turn`: the Core under mutation together with the actions pushed so far.
The source has a `CoreActions` buffer and `&mut self` for this.  One field of it is not in
the source: `overflowed` records that some addition to a time failed.  No function reads
it.  It is there so that a claim which excludes overflow can say so.

The identifier spaces are `Option`s of the next raw value, `none` once they are used up, and
may start anywhere (`seedIdentifiers`).
-/

namespace SecsRust
namespace Hsms

open Std

/-- `SessionCoreConfig`: the immutable configuration of one generation. -/
structure SessionCoreConfig where
  sessionId : SessionId
  transactionCapacity : ℕ
  tombstoneCapacity : ℕ
  timeouts : HsmsTimeouts
  replyCapacity : ℕ
  drainTimeout : Duration

theorem fiveSeconds_fits : 5 < 2 ^ 64 := by decide

/-- `SessionCoreConfig::new`: the default bounds for a Data Session ID. -/
def SessionCoreConfig.new (sessionId : SessionId) : SessionCoreConfig where
  sessionId := sessionId
  transactionCapacity := 256
  tombstoneCapacity := 512
  timeouts := .default
  replyCapacity := 256
  drainTimeout := .ofSecs 5 fiveSeconds_fits

/-! ## Live protocol work -/

/-- `TransactionKind`: the transactional control procedures. -/
inductive TransactionKind where
  | deselect
  | select
  | linktest
  deriving DecidableEq

/-- `request_stype`: the SType by which a peer Reject names the request. -/
def TransactionKind.requestStype : TransactionKind → UInt8
  | .deselect => 3
  | .select => 1
  | .linktest => 5

/-- `ControlTransaction`: the live local control request. -/
structure ControlTransaction where
  kind : TransactionKind
  commandId : Option CommandId
  sessionId : UInt16
  systemBytes : SystemBytes
  writeId : WriteId
  /-- The T6 deadline, absent until the request commits locally. -/
  deadline : Option MonoTime
  deriving DecidableEq

/-- `DataTransaction`: one live outbound Data Request. -/
structure DataTransaction where
  commandId : CommandId
  writeId : WriteId
  responseContract : ResponseContract
  /-- The T3 deadline, absent until the request commits locally. -/
  deadline : Option MonoTime
  deriving DecidableEq

/-- `DataWriteCorrelation`: the tuple by which a peer Reject names an outbound Data write. -/
structure DataWriteCorrelation where
  sessionId : SessionId
  systemBytes : SystemBytes
  deriving DecidableEq

/-- `DataWriteCorrelation::matches`: the Reject names the frame of this pending Send. -/
def DataWriteCorrelation.matchesReject (correlation : DataWriteCorrelation) (sessionId : UInt16)
    (headerByte2 : UInt8) (reason : RejectReason) (systemBytes : SystemBytes) : Bool :=
  matchesDataReject correlation.sessionId correlation.systemBytes sessionId headerByte2 reason
    systemBytes

/-- `OpenCommandKind`: the typed class retained for an accepted command. -/
inductive OpenCommandKind where
  | control
  | send
  | request
  deriving DecidableEq

/-- The result by which a command of a given kind completes with an error. -/
def OpenCommandKind.errorResult (kind : OpenCommandKind) (error : OperationError) :
    CoreCommandResult :=
  match kind with
  | .control => .control (.error error)
  | .send => .send (.error error)
  | .request => .request (.error error)

/-- `PendingWriteKind`: the protocol purpose of a write awaiting its outcome. -/
inductive PendingWriteKind where
  | transactionRequest
  | dataSend (correlation : DataWriteCorrelation)
  | dataRequest (systemBytes : SystemBytes)
  | response
  | separate
  deriving DecidableEq

/-- The write carries a Data message: the test of `data_in_use`. -/
def PendingWriteKind.isData : PendingWriteKind → Bool
  | .dataSend _ => true
  | .dataRequest _ => true
  | _ => false

/-- `PendingWrite`: the correlation retained for one produced frame.  It stays in its table until
the Writer has reported, whatever becomes of its command. -/
structure PendingWrite where
  kind : PendingWriteKind
  /-- The still-open command completed by this write, if any. -/
  commandId : Option CommandId
  deriving DecidableEq

/-- `RejectTarget`: the live operation selected by an attributable Reject.  Where there are
several, none of them is touched. -/
inductive RejectTarget where
  | control (transaction : ControlTransaction)
  | dataRequest (transaction : DataTransaction)
  | dataSend (commandId : CommandId)
  deriving DecidableEq

/-- `DataInputClassification`: what an inbound Secondary is to the live Requests and to those
that were retired. -/
inductive DataInputClassification where
  | matchedSecondary
  | matchedAbort
  | liveMismatch
  | retainedTombstone
  | unmatched
  deriving DecidableEq

/-- `RejectInputClassification`: what an inbound Reject is to the operations that are alive.  It
acts on exactly one of them or on none. -/
inductive RejectInputClassification where
  | matchedAutonomousOperation
  | matchedLiveOperation
  | retainedTombstone
  | unmatched
  | extensionReason
  | ambiguous
  deriving DecidableEq

/-- `DeselectDrain`: a local Deselect waiting for Data obligations to finish.  Its command
completes when the Deselect has been answered, or when the time for waiting is over. -/
structure DeselectDrain where
  commandId : CommandId
  deadline : MonoTime
  deriving DecidableEq

/-! ## The Core -/

/-- `SessionCore`: the control and Data protocol state of one generation.  It is moved from one
round to the next, and nothing outside of it is read. -/
structure SessionCore where
  config : SessionCoreConfig
  /-- The selection state, `none` before the first connected fact. -/
  state : Option SessionState
  lastNow : Option MonoTime
  notice : Option ProtocolNotice
  /-- The T7 expiry of the current NotSelected tenure. -/
  selectionDeadline : Option MonoTime
  lastActivity : Option MonoTime
  idleDeadline : Option MonoTime
  /-- The next raw WriteId, `none` after the space is exhausted. -/
  nextWriteId : Option UInt64
  nextSystemBytes : Option UInt32
  activeTransaction : Option ControlTransaction
  deselectDrain : Option DeselectDrain
  dataTransactions : ExtTreeMap SystemBytes DataTransaction
  tombstones : TransactionTombstones
  pendingWrites : ExtTreeMap WriteId PendingWrite
  replyContracts : ExtTreeMap ReplyCapabilityId DataHeader
  nextReplyId : Option UInt64
  openCommands : ExtTreeMap CommandId OpenCommandKind
  /-- Terminal errors waiting for an unresolved write's visibility fact. -/
  deferredErrors : ExtTreeMap CommandId OperationError
  closing : Bool
  closeActionIssued : Bool

namespace SessionCore

/-- `new`: a disconnected Core with fresh identifier spaces. -/
def new (config : SessionCoreConfig) : SessionCore where
  config := config
  state := none
  lastNow := none
  notice := none
  selectionDeadline := none
  lastActivity := none
  idleDeadline := none
  nextWriteId := some 0
  nextSystemBytes := some 0
  activeTransaction := none
  deselectDrain := none
  dataTransactions := ∅
  tombstones := .new config.tombstoneCapacity
  pendingWrites := ∅
  replyContracts := ∅
  nextReplyId := some 0
  openCommands := ∅
  deferredErrors := ∅
  closing := false
  closeActionIssued := false

/-- `seed_identifiers`: the exact next raw identifier values. -/
def seedIdentifiers (core : SessionCore) (nextWriteId : Option UInt64)
    (nextSystemBytes : Option UInt32) : SessionCore :=
  { core with nextWriteId := nextWriteId, nextSystemBytes := nextSystemBytes }

/-- Some unresolved write still belongs to the command: the test of `complete_or_defer`. -/
def writeUnresolved (core : SessionCore) (commandId : CommandId) : Bool :=
  core.pendingWrites.toList.any fun (_, write) => write.commandId = some commandId

/-- `replies_blocked`: a Deselect request of ours is outstanding. -/
def repliesBlocked (core : SessionCore) : Bool :=
  core.activeTransaction.any fun transaction => transaction.kind = .deselect

/-- `data_in_use`: Data obligations remain. -/
def dataInUse (core : SessionCore) : Bool :=
  !core.dataTransactions.isEmpty || !core.replyContracts.isEmpty ||
    core.pendingWrites.toList.any fun (_, write) => write.kind.isData

/-- `allocate_write_id`: the next write identity.  Behind the last one there is none, and nothing
wraps. -/
def allocateWriteId (core : SessionCore) : Option (WriteId × SessionCore) :=
  match core.nextWriteId with
  | none => none
  | some value => some (⟨value⟩, { core with nextWriteId := u64CheckedSucc value })

/-- `allocate_system_bytes`: the next System Bytes of a frame that originates here.  They are
used once in a generation. -/
def allocateSystemBytes (core : SessionCore) : Option (SystemBytes × SessionCore) :=
  match core.nextSystemBytes with
  | none => none
  | some value => some (⟨value⟩, { core with nextSystemBytes := u32CheckedSucc value })

/-- What `emit_completion` removes: the command leaves `open_commands` and `deferred_errors`, and
every retained write forgets it. -/
def detach (core : SessionCore) (commandId : CommandId) : SessionCore :=
  { core with
    openCommands := core.openCommands.erase commandId
    deferredErrors := core.deferredErrors.erase commandId
    pendingWrites := core.pendingWrites.map fun _ write =>
      if write.commandId = some commandId then { write with commandId := none } else write }

/-- `remove_transaction_for_write`: removes the live transaction of a failed write, if any. -/
def removeTransactionForWrite (core : SessionCore) (writeId : WriteId) (kind : PendingWriteKind) :
    SessionCore :=
  match kind with
  | .transactionRequest =>
    if core.activeTransaction.any fun transaction => transaction.writeId = writeId then
      { core with activeTransaction := none }
    else
      core
  | .dataRequest systemBytes =>
    if core.dataTransactions[systemBytes]?.any fun transaction => transaction.writeId = writeId then
      { core with dataTransactions := core.dataTransactions.erase systemBytes }
    else
      core
  | .dataSend _ => core
  | .response => core
  | .separate => core

end SessionCore

/-! ## One input round -/

/-- The Core under mutation together with the actions pushed so far.  `overflowed` records that
some `MonoTime::checked_add` of the round returned `None`; nothing the Core does reads it. -/
structure Turn where
  core : SessionCore
  actions : List CoreAction
  overflowed : Bool

namespace Turn

/-- The beginning of a round, before any action. -/
def start (core : SessionCore) : Turn := ⟨core, [], false⟩

/-- `CoreActions::push`: the Driver applies the actions in this order. -/
def push (t : Turn) (action : CoreAction) : Turn := { t with actions := t.actions ++ [action] }

/-- A mutation of the Core that pushes no action. -/
def update (t : Turn) (f : SessionCore → SessionCore) : Turn := { t with core := f t.core }

/-- Records that a time addition overflowed. -/
def noteOverflow (t : Turn) : Turn := { t with overflowed := true }

end Turn

end Hsms
end SecsRust
