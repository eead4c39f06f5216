import SecsRust.Lib.Steps
import SecsRust.Hsms.Core.Session.Completion

/-!
# What one round of the Core can do

A round of the Core is a sequence of small effects: time is accepted, a command is refused,
a frame is sent, a transaction is retired, a write is resolved, the generation ends.
`Effect` lists them all, each with the condition under which the Core performs it, the Core
it leaves, and the actions it pushes.  `Trace` shows that every round of every entry point
is such a sequence, so a property of all runs is proved by looking at one effect at a time
and never at a handler.

## The accepted command

`on_command` and `on_reply` insert the command they are given into `open_commands` before
they do anything else with it, and one of the effects of the round then refuses it,
completes it or hands it to a transaction, a drain or a write.  `Stage.fresh` carries the
command from the insertion to that effect, which is the only one that may drop it.

## Why something ends

The conditions of an effect are of two kinds.  Some are about the Core: that a write is
pending, that the session is selected.  The others are about the input, and say why the Core
does it: a control transaction is retired because its answer has come, or its timer has run
out, or a Reject has named it.  These are the causes (`ControlCause`, `RequestCause`,
`CommitCause` and their siblings), and each carries the result that the command gets.  A
claim about what a completion means is a claim about the causes.

## The state before the round

A few effects depend on how the Core stood when the round began.  For these the relation has
the Core before the round, `origin`, as a parameter.  Two of them are the places where the
source strands something: `StrandsDeselect` and `FailsAdmission` name the rounds that get
there.
-/

namespace SecsRust
namespace Hsms

open Std Secs2

/-- The Core in the middle of a round.  Besides the Core it has the accepted command that nothing
owns yet, and whether an addition of times has overflowed. -/
structure Stage where
  core : SessionCore
  overflowed : Bool
  /-- The accepted command that nothing owns yet. -/
  fresh : Option CommandId

namespace SessionCore

/-- The command of a retired control transaction, if it has one, leaves the tables. -/
def release (core : SessionCore) : Option CommandId → SessionCore
  | none => core
  | some commandId => core.detach commandId

/-- The entry for `system_bytes` leaves the Data transactions. -/
def eraseTransaction (core : SessionCore) (systemBytes : SystemBytes) : SessionCore :=
  { core with dataTransactions := core.dataTransactions.erase systemBytes }

/-- The write leaves `pending_writes`. -/
def eraseWrite (core : SessionCore) (writeId : WriteId) : SessionCore :=
  { core with pendingWrites := core.pendingWrites.erase writeId }

/-- The capability leaves the reply contracts. -/
def eraseContract (core : SessionCore) (capability : ReplyCapabilityId) : SessionCore :=
  { core with replyContracts := core.replyContracts.erase capability }

/-- A frame was produced: its write is tracked and the WriteId space advances. -/
def trackWrite (core : SessionCore) (writeId : WriteId) (write : PendingWrite) : SessionCore :=
  { core with
    pendingWrites := core.pendingWrites.insert writeId write
    nextWriteId := u64CheckedSucc writeId.raw }

/-- A local request took its System Bytes. -/
def takeSystemBytes (core : SessionCore) (systemBytes : SystemBytes) : SessionCore :=
  { core with nextSystemBytes := u32CheckedSucc systemBytes.raw }

/-- The next WriteId and System Bytes of a local request. -/
def Allocates (core : SessionCore) (systemBytes : SystemBytes) (writeId : WriteId) : Prop :=
  core.nextSystemBytes = some systemBytes.raw ∧ core.nextWriteId = some writeId.raw

/-- `now` does not regress behind the last accepted time. -/
def AcceptsTime (core : SessionCore) (now : MonoTime) : Prop :=
  ∀ last, core.lastNow = some last → last ≤ now

/-- The latest activity once some is recorded at `occurredAt`. -/
def latestActivity (core : SessionCore) (occurredAt : MonoTime) : MonoTime :=
  match core.lastActivity with
  | none => occurredAt
  | some previous => max previous occurredAt

/-- Activity recorded at `occurredAt` leaves a representable probe deadline. -/
def ActivityFits (core : SessionCore) (occurredAt : MonoTime) : Prop :=
  ∀ interval, core.config.timeouts.linktest = some interval →
    ((core.latestActivity occurredAt).checkedAdd interval).isSome = true

/-- A peer Separate.req is about to end a generation in which a local Deselect is draining: the
round gets as far as `receive_separate` and finds the drain there. -/
def StrandsDeselect (core : SessionCore) (input : Input) : Prop :=
  ∃ sessionId systemBytes now,
    input = .message (.control (.separateRequest sessionId systemBytes)) now ∧
    core.AcceptsTime now ∧ core.ActivityFits now ∧ core.state = some .selected ∧
    core.closing = false ∧ core.deselectDrain.isSome = true

/-- A pending write is about to fail its admission. -/
def FailsAdmission (core : SessionCore) (input : Input) : Prop :=
  ∃ reason writeId now, input = .shutdown reason (some writeId) now ∧ core.AcceptsTime now ∧
    core.pendingWrites[writeId]?.isSome = true

/-- `after` is `core` once Separate has preempted its Data commands: those without an unresolved
write have completed with `SessionDeselected`, the others keep that error for their write. -/
structure Separated (core after : SessionCore) : Prop where
  frame : after = { core with
    openCommands := after.openCommands
    deferredErrors := after.deferredErrors
    state := some .notSelected
    deselectDrain := none
    dataTransactions := ∅
    replyContracts := ∅
    closing := true
    closeActionIssued := true }
  openCommands : ∀ c : CommandId, after.openCommands[c]? =
    if c ∈ core.dataCommands ∧ core.writeUnresolved c = false then none
    else core.openCommands[c]?
  deferredErrors : ∀ c : CommandId, after.deferredErrors[c]? =
    if c ∈ core.dataCommands then
      if core.writeUnresolved c then some (core.deferredErrors[c]?.getD .sessionDeselected)
      else none
    else core.deferredErrors[c]?

/-- The completions by which Separate preempts the Data commands. -/
def separateCompletions (core : SessionCore) : List CoreAction :=
  core.dataCommands.filterMap (core.completion .sessionDeselected)

/-- `after` is `core` once every retained write has been given up: the commands of the writes have
completed, and all the others have kept their entries. -/
structure Abandoned (core after : SessionCore) : Prop where
  frame : after = { core with
    openCommands := after.openCommands
    deferredErrors := after.deferredErrors
    pendingWrites := ∅ }
  openCommands : ∀ c : CommandId, after.openCommands[c]? =
    if core.writeUnresolved c then none else core.openCommands[c]?
  deferredErrors : ∀ c : CommandId, after.deferredErrors[c]? =
    if core.writeUnresolved c then none else core.deferredErrors[c]?

/-- The completion of the command of a given-up write, if it has one. -/
def abandonment (core : SessionCore) (write : PendingWrite) : Option CoreAction :=
  write.commandId.bind fun commandId => core.openCommands[commandId]?.map fun kind =>
    .completeCommand commandId (kind.errorResult .deliveryIndeterminate)

/-- The completions of the commands of the given-up writes, in WriteId order. -/
def abandonments (core : SessionCore) : List CoreAction :=
  (core.pendingWrites.toList.map Prod.snd).filterMap core.abandonment

end SessionCore

/-- The class of command that a result completes. -/
def CoreCommandResult.openKind : CoreCommandResult → OpenCommandKind
  | .requestTimedOut _ => .request
  | .control _ => .control
  | .send _ => .send
  | .request _ => .request

@[simp] theorem OpenCommandKind.openKind_errorResult (kind : OpenCommandKind)
    (error : OperationError) : (kind.errorResult error).openKind = kind := by
  cases kind <;> rfl

/-- The control messages that answer a peer message rather than start a procedure of ours. -/
def ControlMessage.isResponse : ControlMessage → Bool
  | .selectResponse .. | .deselectResponse .. | .linktestResponse _ | .rejectRequest .. => true
  | .selectRequest .. | .deselectRequest .. | .linktestRequest _ | .separateRequest .. => false

/-- The input comes from the peer. -/
def Input.isInbound : Input → Bool
  | .message .. | .inboundViolation .. => true
  | .connected _ | .command .. | .reply .. | .writeOutcome .. | .shutdown .. | .finishShutdownDrain
      ..
  | .advanceTime _ | .finalizeWriter _ => false

/-- The input lets the timers expire. -/
def Input.isTick : Input → Bool
  | .advanceTime _ | .writeOutcome .. => true
  | _ => false

/-- The input asks for a Separate or announces one. -/
def Input.isSeparate : Input → Bool
  | .command ⟨_, .separate⟩ _ | .message (.control (.separateRequest _ _)) _
  | .finishShutdownDrain .. => true
  | _ => false

/-- The error reports an answer of the peer: its abort or its Reject. -/
def OperationError.isPeerVerdict : OperationError → Bool
  | .peerRejected _ | .protocol .transactionAborted => true
  | _ => false

/-- The control transaction without its timer. -/
def ControlTransaction.identity (transaction : ControlTransaction) : ControlTransaction :=
  { transaction with deadline := none }

/-- The identity of the active control transaction. -/
def SessionCore.control (core : SessionCore) : Option ControlTransaction :=
  core.activeTransaction.map ControlTransaction.identity

/-- The completion of a control command, if there is one to complete. -/
def controlCompletion (commandId : Option CommandId) (result : Except OperationError Unit) :
    List CoreAction :=
  match commandId with
  | none => []
  | some commandId => [.completeCommand commandId (.control result)]

/-! ## Why something ends -/

/-- Why a live control transaction is retired, with the result its command gets.  Its answer has
come, a Reject has named it, T6 has run out, or a Separate has ended it. -/
inductive ControlCause (input : Input) (transaction : ControlTransaction) :
    Except OperationError Unit → Prop where
  | select {status : SelectStatus} {now : MonoTime} {result : Except OperationError Unit}
      (message : input = .message (.control
        (.selectResponse transaction.sessionId status transaction.systemBytes)) now)
      (kind : transaction.kind = .select) : ControlCause input transaction result
  | linktest {now : MonoTime} {result : Except OperationError Unit}
      (message : input = .message (.control (.linktestResponse transaction.systemBytes)) now)
      (kind : transaction.kind = .linktest) (session : transaction.sessionId = controlSessionId) :
      ControlCause input transaction result
  | deselect {status : DeselectStatus} {now : MonoTime} {result : Except OperationError Unit}
      (message : input = .message (.control
        (.deselectResponse transaction.sessionId status transaction.systemBytes)) now)
      (kind : transaction.kind = .deselect) : ControlCause input transaction result
  | rejected {headerByte2 : UInt8} {reason : RejectReason} {now : MonoTime}
      (message : input = .message (.control
        (.rejectRequest transaction.sessionId headerByte2 reason transaction.systemBytes)) now)
      (base : reason.IsBaseStandard)
      (names : Turn.namesControl transaction transaction.sessionId headerByte2 reason
        transaction.systemBytes = true) :
      ControlCause input transaction (.error (.peerRejected reason))
  | expired {deadline : MonoTime} (armed : transaction.deadline = some deadline)
      (due : deadline ≤ input.now) : ControlCause input transaction (.error (.timeout .t6))
  | separated (separates : input.isSeparate = true) :
      ControlCause input transaction (.error (.protocol .transactionAborted))

/-- The messages by which a session becomes Selected.  A request of the peer, or the answer to a
request of ours. -/
inductive SelectCause (input : Input) : Prop where
  | requested {sessionId : UInt16} {systemBytes : SystemBytes} {now : MonoTime}
      (message : input = .message (.control (.selectRequest sessionId systemBytes)) now) :
      SelectCause input
  | answered {sessionId : UInt16} {status : SelectStatus} {systemBytes : SystemBytes}
      {now : MonoTime}
      (message : input = .message (.control (.selectResponse sessionId status systemBytes)) now) :
      SelectCause input

/-- The messages by which a session ceases to be Selected.  A request of the peer, or the answer
to a request of ours; a Separate ends the generation instead. -/
inductive DeselectCause (input : Input) : Prop where
  | requested {sessionId : UInt16} {systemBytes : SystemBytes} {now : MonoTime}
      (message : input = .message (.control (.deselectRequest sessionId systemBytes)) now) :
      DeselectCause input
  | answered {sessionId : UInt16} {status : DeselectStatus} {systemBytes : SystemBytes}
      {now : MonoTime}
      (message : input = .message (.control (.deselectResponse sessionId status systemBytes)) now) :
      DeselectCause input

/-- Why a pending Deselect drain ends without its transaction. -/
inductive DrainCause (core : SessionCore) (input : Input) (drain : DeselectDrain) :
    Except OperationError Unit → Prop where
  | expired (due : drain.deadline ≤ input.now) : DrainCause core input drain
      (.error (.timeout .drain))
  | deselected (state : core.state = some .notSelected) : DrainCause core input drain (.ok ())
  | separated (separates : input.isSeparate = true) :
      DrainCause core input drain (.error (.protocol .transactionAborted))

/-- Why a live Data Request is retired, with the result its command gets. -/
inductive RequestCause (input : Input) (systemBytes : SystemBytes)
    (transaction : DataTransaction) : CoreCommandResult → Prop where
  | answered {message : DataMessage} {now : MonoTime}
      (received : input = .message (.data message) now)
      (key : message.header.systemBytes = systemBytes)
      (normal : transaction.responseContract.classify message = .normal) :
      RequestCause input systemBytes transaction (.request (.ok ⟨message.header, message.body⟩))
  | aborted {message : DataMessage} {now : MonoTime}
      (received : input = .message (.data message) now)
      (key : message.header.systemBytes = systemBytes)
      (abort : transaction.responseContract.classify message = .abort) :
      RequestCause input systemBytes transaction
        (.request (.error (.protocol .transactionAborted)))
  | rejected {sessionId : UInt16} {headerByte2 : UInt8} {reason : RejectReason}
      {rejected : SystemBytes} {now : MonoTime}
      (received : input = .message (.control
        (.rejectRequest sessionId headerByte2 reason rejected)) now)
      (names : transaction.responseContract.matchesReject sessionId headerByte2 reason rejected =
        true) :
      RequestCause input systemBytes transaction (.request (.error (.peerRejected reason)))
  | expired {deadline : MonoTime} (ticks : input.isTick = true)
      (armed : transaction.deadline = some deadline) (due : deadline ≤ input.now) :
      RequestCause input systemBytes transaction
        (.requestTimedOut transaction.responseContract.requestHeader)

/-- Why a committed write completes its command, with the result. -/
inductive CommitCause (core : SessionCore) (writeId : WriteId) (write : PendingWrite)
    (commandId : CommandId) : CoreCommandResult → Prop where
  | send {correlation : DataWriteCorrelation} (kind : write.kind = .dataSend correlation) :
      CommitCause core writeId write commandId (.send (.ok ⟨writeId⟩))
  | separate (kind : write.kind = .separate) :
      CommitCause core writeId write commandId (.control (.ok ()))
  | released {error : OperationError} {kind : OpenCommandKind}
      (open_ : core.openCommands[commandId]? = some kind)
      (request : write.kind = .transactionRequest ∨ ∃ systemBytes,
        write.kind = .dataRequest systemBytes)
      (deferred : core.deferredErrors[commandId]? = some error) :
      CommitCause core writeId write commandId (kind.errorResult error)

/-- Why a write fails, with the error its command gets. -/
inductive FailureCause (input : Input) (writeId : WriteId) : OperationError → Prop where
  | notWritten {fault : TransportFault} {occurredAt now : MonoTime}
      (outcome : input = .writeOutcome writeId (.notWritten fault) occurredAt now) :
      FailureCause input writeId .connectionLost
  | indeterminate {fault : TransportFault} {occurredAt now : MonoTime}
      (outcome : input = .writeOutcome writeId (.indeterminate fault) occurredAt now) :
      FailureCause input writeId .deliveryIndeterminate
  | notAdmitted {reason : GenerationCloseReason} {now : MonoTime} {error : OperationError}
      (shutdown : input = .shutdown reason (some writeId) now)
      (ours : error.isPeerVerdict = false) :
      FailureCause input writeId error

/-- How an application reply spends its contract without a frame. -/
inductive SpendCause (input : Input) (capability : ReplyCapabilityId) (header : DataHeader) :
    CoreCommandResult → Prop where
  | abandoned {commandId : CommandId} {body : Option SecsItem} {now : MonoTime}
      (reply : input = .reply commandId capability .abandon body now) :
      SpendCause input capability header (.control (.ok ()))
  | exhausted {commandId : CommandId} {body : Option SecsItem} {now : MonoTime}
      (reply : input = .reply commandId capability .secondary body now)
      (function : header.function.raw = 255) :
      SpendCause input capability header (.send (.error .replyRequiresAbort))

/-- What a reply frame carries: the successor function for a Secondary, F0 without a body for an
Abort. -/
inductive ReplyCause (input : Input) (capability : ReplyCapabilityId) (header : DataHeader) :
    Function → Option SecsItem → Prop where
  | secondary {commandId : CommandId} {body : Option SecsItem} {now : MonoTime}
      {function : Function} (reply : input = .reply commandId capability .secondary body now)
      (successor : ResponseContract.succFunction header.function = some function) :
      ReplyCause input capability header function body
  | abort {commandId : CommandId} {body : Option SecsItem} {now : MonoTime}
      (reply : input = .reply commandId capability .abort body now) :
      ReplyCause input capability header ⟨0⟩ none

open CoreAction SessionCore

/-- **The effects of a round.**  `origin` is the Core before the round and `input` what it was
given; each effect leads from one stage to the next with the actions it pushes. -/
inductive Effect (origin : SessionCore) (input : Input) : Stage → List CoreAction → Stage → Prop
    where
  -- Time and observations
  | tick {s o f} (accepts : s.AcceptsTime input.now) :
      Effect origin input ⟨s, o, f⟩ [] ⟨{ s with lastNow := some input.now }, o, f⟩
  | observe {s o f} (notice : Option ProtocolNotice) (lastActivity idleDeadline : Option MonoTime) :
      Effect origin input ⟨s, o, f⟩ []
        ⟨{ s with notice := notice, lastActivity := lastActivity, idleDeadline := idleDeadline },
          o, f⟩
  -- Closing
  | ended {s pre s' : SessionCore} {o o' f} (reason : GenerationCloseReason)
      (frame : pre = { s with
        state := pre.state
        selectionDeadline := pre.selectionDeadline
        lastActivity := pre.lastActivity
        idleDeadline := pre.idleDeadline
        deselectDrain := pre.deselectDrain
        replyContracts := pre.replyContracts })
      (state : pre.state = s.state ∨ pre.state = some .notSelected ∨ pre.state = some .selected)
      (overflow : o = true → o' = true) (done : pre.Ended s') :
      Effect origin input ⟨s, o, f⟩ (s.endActions reason) ⟨s', o', none⟩
  | lostWrite {s pre s' : SessionCore} {o f} {w : WriteId} {write : PendingWrite}
      {occurredAt now : MonoTime} (reason : GenerationCloseReason)
      (outcome : input = .writeOutcome w .committed occurredAt now)
      (pending : s.pendingWrites[w]? = some write) (live : s.closing = false)
      (frame : pre = { s.eraseWrite w with
        lastActivity := pre.lastActivity
        idleDeadline := pre.idleDeadline }) (done : pre.Ended s') :
      Effect origin input ⟨s, o, f⟩ ((s.eraseWrite w).endActions reason) ⟨s', true, none⟩
  | lateAnnounce {s f} (closing : s.closing = true) :
      Effect origin input ⟨s, true, f⟩ [.sessionStateChanged .notSelected] ⟨s, true, f⟩
  | lateControl {s f} {c : CommandId} (result : Except OperationError Unit)
      (closing : s.closing = true) (open_ : s.openCommands[c]? = some .control)
      (notFresh : f ≠ some c) :
      Effect origin input ⟨s, true, f⟩ [.completeCommand c (.control result)] ⟨s.detach c, true, f⟩
  | admissionClosed {s s' : SessionCore} {o} (reason : GenerationCloseReason)
      (failed : origin.FailsAdmission input)
      (drain : s.deselectDrain = origin.deselectDrain)
      (contracts : s.replyContracts = origin.replyContracts)
      (done : Completed { s with activeTransaction := none, dataTransactions := ∅ } s'
        .connectionLost s.openCommands.keys) :
      Effect origin input ⟨s, o, none⟩ (s.lossCompletions ++ [.closeGeneration reason .immediate])
        ⟨{ s' with closing := true, closeActionIssued := true }, o, none⟩
  | abandonWrites {s s' : SessionCore} {o} {now : MonoTime} (finalize : input = .finalizeWriter now)
      (closing : s.closing = true) (done : s.Abandoned s') :
      Effect origin input ⟨s, o, none⟩ s.abandonments ⟨s', o, none⟩
  | loseCommands {s s' : SessionCore} {o} {now : MonoTime} (finalize : input = .finalizeWriter now)
      (closing : s.closing = true)
      (done : Completed { s with activeTransaction := none, dataTransactions := ∅ } s'
        .connectionLost s.openCommands.keys) :
      Effect origin input ⟨s, o, none⟩ s.lossCompletions ⟨s', o, none⟩
  -- Connection and selection
  | connect {s o f} (deadline : MonoTime) (state : s.state = none) (live : s.closing = false)
      (armed : input.now.checkedAdd s.config.timeouts.t7 = some deadline)
      (received : input = .connected input.now) :
      Effect origin input ⟨s, o, f⟩ [.sessionStateChanged .notSelected]
        ⟨{ s with state := some .notSelected, selectionDeadline := some deadline }, o, f⟩
  | selected {s o f} (cause : SelectCause input) (state : s.state = some .notSelected)
      (live : s.closing = false) :
      Effect origin input ⟨s, o, f⟩ [.sessionStateChanged .selected]
        ⟨{ s with state := some .selected, selectionDeadline := none }, o, f⟩
  | deselected {s o f} (deadline : MonoTime) (state : s.state = some .selected)
      (live : s.closing = false) (quiet : s.DataQuiet)
      (armed : input.now.checkedAdd s.config.timeouts.t7 = some deadline)
      (cause : DeselectCause input) :
      Effect origin input ⟨s, o, f⟩ [.sessionStateChanged .notSelected]
        ⟨{ s with
          state := some .notSelected
          replyContracts := ∅
          selectionDeadline := some deadline }, o, f⟩
  | respond {s o f} {w : WriteId} (message : ControlMessage) (state : s.state.isSome = true)
      (live : s.closing = false) (next : s.nextWriteId = some w.raw)
      (response : message.isResponse = true) (inbound : input.isInbound = true) :
      Effect origin input ⟨s, o, f⟩ [.sendFrame w (.control message)]
        ⟨s.trackWrite w ⟨.response, none⟩, o, f⟩
  -- Commands and control procedures
  | refuse {s o} {c : CommandId} {kind : OpenCommandKind} (error : OperationError)
      (open_ : s.openCommands[c]? = some kind) (ours : error.isPeerVerdict = false) :
      Effect origin input ⟨s, o, some c⟩ [.completeCommand c (kind.errorResult error)]
        ⟨s.detach c, o, none⟩
  | startDrain {s o} {c : CommandId} {deadline : MonoTime} (state : s.state = some .selected)
      (live : s.closing = false) (open_ : s.openCommands[c]? = some .control)
      (idle : s.activeTransaction = none) (noDrain : s.deselectDrain = none)
      (armed : input.now.checkedAdd s.config.drainTimeout = some deadline)
      (before : origin.activeTransaction = none) :
      Effect origin input ⟨s, o, some c⟩ []
        ⟨{ s with deselectDrain := some ⟨c, deadline⟩ }, o, none⟩
  | endDrain {s o f} {drain : DeselectDrain} {result : Except OperationError Unit}
      (live : s.closing = false) (pending : s.deselectDrain = some drain)
      (cause : DrainCause s input drain result) :
      Effect origin input ⟨s, o, f⟩ [.completeCommand drain.commandId (.control result)]
        ⟨{ s.detach drain.commandId with deselectDrain := none }, o, f⟩
  | startControl {s o f} {w : WriteId} {systemBytes : SystemBytes} (kind : TransactionKind)
      (other : kind ≠ .deselect) (state : s.state.isSome = true) (live : s.closing = false)
      (open_ : ∀ c, f = some c → s.openCommands[c]? = some .control)
      (idle : s.activeTransaction = none) (noDrain : s.deselectDrain = none)
      (next : s.Allocates systemBytes w) (before : origin.activeTransaction = none)
      (unselected : kind = .select → s.state = some .notSelected) :
      Effect origin input ⟨s, o, f⟩
        [.sendFrame w (.control (Turn.requestMessage kind systemBytes))]
        ⟨{ (s.takeSystemBytes systemBytes).trackWrite w ⟨.transactionRequest, f⟩ with
          activeTransaction := some ⟨kind, f, controlSessionId, systemBytes, w, none⟩ }, o, none⟩
  | startDeselection {s o} {w : WriteId} {systemBytes : SystemBytes} {drain : DeselectDrain}
      (state : s.state = some .selected) (live : s.closing = false)
      (pending : s.deselectDrain = some drain) (quiet : s.dataInUse = false)
      (next : s.Allocates systemBytes w) :
      Effect origin input ⟨s, o, none⟩
        [.sendFrame w (.control (.deselectRequest controlSessionId systemBytes))]
        ⟨{ (s.takeSystemBytes systemBytes).trackWrite w ⟨.transactionRequest, some drain.commandId⟩
          with
          deselectDrain := none
          activeTransaction :=
            some ⟨.deselect, some drain.commandId, controlSessionId, systemBytes, w, none⟩ },
          o, none⟩
  | retireControl {s o f} {transaction : ControlTransaction} {result : Except OperationError Unit}
      (active : s.activeTransaction = some transaction)
      (cause : ControlCause input transaction result) (before : s.control = origin.control) :
      Effect origin input ⟨s, o, f⟩ (controlCompletion transaction.commandId result)
        ⟨{ s.release transaction.commandId with activeTransaction := none }, o, f⟩
  | separate {s s' : SessionCore} {o f} {w : WriteId} {systemBytes : SystemBytes}
      (reason : GenerationCloseReason) (state : s.state = some .selected)
      (live : s.closing = false)
      (open_ : ∀ c, f = some c → s.openCommands[c]? = some .control)
      (idle : s.activeTransaction = none) (noDrain : s.deselectDrain = none)
      (next : s.Allocates systemBytes w) (done : s.Separated s') :
      Effect origin input ⟨s, o, f⟩
        (s.separateCompletions ++
          [.sendFrame w (.control (.separateRequest controlSessionId systemBytes)),
            .sessionStateChanged .notSelected, .closeGeneration reason (.afterWrite w)])
        ⟨(s'.takeSystemBytes systemBytes).trackWrite w ⟨.separate, f⟩, o, none⟩
  | peerSeparate {s s' : SessionCore} {o} (state : s.state = some .selected)
      (live : s.closing = false) (idle : s.activeTransaction = none)
      (stranded : s.deselectDrain = none ∨ origin.StrandsDeselect input) (done : s.Separated s') :
      Effect origin input ⟨s, o, none⟩
        (s.separateCompletions ++
          [.sessionStateChanged .notSelected, .closeGeneration .separateReceived .immediate])
        ⟨s', o, none⟩
  -- Data we originate
  | sendRequest {s o} {c : CommandId} {w : WriteId} {systemBytes : SystemBytes} {now : MonoTime}
      (primary : PrimaryMessage) (received : input = .command ⟨c, .request primary⟩ now)
      (state : s.state = some .selected) (live : s.closing = false)
      (open_ : s.openCommands[c]? = some .request) (noDrain : s.deselectDrain = none)
      (unblocked : origin.repliesBlocked = false ∧ s.repliesBlocked = false)
      (odd : primary.function.raw % 2 = 1) (next : s.Allocates systemBytes w) :
      Effect origin input ⟨s, o, some c⟩
        [.sendFrame w (.data ⟨⟨s.config.sessionId, primary.stream, primary.function, true,
          systemBytes⟩, primary.body⟩)]
        ⟨{ (s.takeSystemBytes systemBytes).trackWrite w ⟨.dataRequest systemBytes, some c⟩ with
          dataTransactions := s.dataTransactions.insert systemBytes ⟨c, w,
            .forRequest s.config.sessionId systemBytes primary.stream primary.function, none⟩ },
          o, none⟩
  | sendPrimary {s o} {c : CommandId} {w : WriteId} {systemBytes : SystemBytes} {now : MonoTime}
      (primary : PrimaryMessage) (received : input = .command ⟨c, .send primary⟩ now)
      (state : s.state = some .selected) (live : s.closing = false)
      (open_ : s.openCommands[c]? = some .send) (noDrain : s.deselectDrain = none)
      (unblocked : origin.repliesBlocked = false ∧ s.repliesBlocked = false)
      (odd : primary.function.raw % 2 = 1) (next : s.Allocates systemBytes w) :
      Effect origin input ⟨s, o, some c⟩
        [.sendFrame w (.data ⟨⟨s.config.sessionId, primary.stream, primary.function, false,
          systemBytes⟩, primary.body⟩)]
        ⟨(s.takeSystemBytes systemBytes).trackWrite w
          ⟨.dataSend ⟨s.config.sessionId, systemBytes⟩, some c⟩, o, none⟩
  | retireRequest {s o f} {systemBytes : SystemBytes} {transaction : DataTransaction}
      {result : CoreCommandResult} (live : s.closing = false)
      (pending : s.dataTransactions[systemBytes]? = some transaction)
      (cause : RequestCause input systemBytes transaction result) :
      Effect origin input ⟨s, o, f⟩ [.completeCommand transaction.commandId result]
        ⟨{ (s.detach transaction.commandId).eraseTransaction systemBytes with
          tombstones := s.tombstones.insert transaction.responseContract }, o, f⟩
  | rejectSend {s o f} {w : WriteId} {write : PendingWrite} {correlation : DataWriteCorrelation}
      {c : CommandId} {sessionId : UInt16} {headerByte2 : UInt8} {reason : RejectReason}
      {systemBytes : SystemBytes} {now : MonoTime} (live : s.closing = false)
      (received : input = .message (.control
        (.rejectRequest sessionId headerByte2 reason systemBytes)) now)
      (pending : s.pendingWrites[w]? = some write) (kind : write.kind = .dataSend correlation)
      (command : write.commandId = some c)
      (names : correlation.matchesReject sessionId headerByte2 reason systemBytes = true) :
      Effect origin input ⟨s, o, f⟩ [.completeCommand c (.send (.error (.peerRejected reason)))]
        ⟨s.detach c, o, f⟩
  -- Data the peer originates
  | deliver {s o f} {capability : ReplyCapabilityId} {message : DataMessage} {now : MonoTime}
      (received : input = .message (.data message) now) (state : s.state = some .selected)
      (live : s.closing = false) (session : message.header.sessionId = s.config.sessionId)
      (odd : message.header.function.raw % 2 = 1) (reply : message.header.replyExpected = true)
      (unused : ∀ (k : ReplyCapabilityId) (header : DataHeader),
        s.replyContracts[k]? = some header → header.systemBytes ≠ message.header.systemBytes)
      (capacity : s.replyContracts.size < s.config.replyCapacity)
      (next : s.nextReplyId = some capability.raw) :
      Effect origin input ⟨s, o, f⟩ [.deliverPrimary message (some capability)]
        ⟨{ s with
          nextReplyId := u64CheckedSucc capability.raw
          replyContracts := s.replyContracts.insert capability message.header }, o, f⟩
  | deliverOneWay {s o f} {message : DataMessage} {now : MonoTime}
      (received : input = .message (.data message) now) (state : s.state = some .selected)
      (live : s.closing = false) (session : message.header.sessionId = s.config.sessionId)
      (odd : message.header.function.raw % 2 = 1) (oneWay : message.header.replyExpected = false) :
      Effect origin input ⟨s, o, f⟩ [.deliverPrimary message none] ⟨s, o, f⟩
  | spendContract {s o} {c : CommandId} {capability : ReplyCapabilityId} {header : DataHeader}
      {kind : OpenCommandKind} {result : CoreCommandResult} (state : s.state = some .selected)
      (live : s.closing = false) (open_ : s.openCommands[c]? = some kind)
      (held : s.replyContracts[capability]? = some header)
      (class_ : result.openKind = kind) (cause : SpendCause input capability header result) :
      Effect origin input ⟨s, o, some c⟩ [.completeCommand c result]
        ⟨(s.detach c).eraseContract capability, o, none⟩
  | sendReply {s o} {c : CommandId} {capability : ReplyCapabilityId} {header : DataHeader}
      {w : WriteId} {function : Function} {body : Option SecsItem}
      (state : s.state = some .selected) (live : s.closing = false)
      (open_ : s.openCommands[c]? = some .send)
      (held : s.replyContracts[capability]? = some header)
      (unblocked : origin.repliesBlocked = false ∧ s.repliesBlocked = false)
      (next : s.nextWriteId = some w.raw)
      (cause : ReplyCause input capability header function body) :
      Effect origin input ⟨s, o, some c⟩
        [.sendFrame w (.data ⟨⟨header.sessionId, header.stream, function, false,
          header.systemBytes⟩, body⟩)]
        ⟨(s.eraseContract capability).trackWrite w
          ⟨.dataSend ⟨header.sessionId, header.systemBytes⟩, some c⟩, o, none⟩
  -- Write outcomes
  | commitControl {s o} {w : WriteId} {write : PendingWrite} {transaction : ControlTransaction}
      {occurredAt now deadline : MonoTime}
      (outcome : input = .writeOutcome w .committed occurredAt now)
      (pending : s.pendingWrites[w]? = some write)
      (active : s.activeTransaction = some transaction) (own : transaction.writeId = w)
      (armed : occurredAt.checkedAdd s.config.timeouts.t6 = some deadline) :
      Effect origin input ⟨s, o, none⟩ []
        ⟨{ s.eraseWrite w with
          activeTransaction := some { transaction with deadline := some deadline } }, o, none⟩
  | commitRequest {s o} {w : WriteId} {write : PendingWrite} {systemBytes : SystemBytes}
      {transaction : DataTransaction} {occurredAt now deadline : MonoTime}
      (outcome : input = .writeOutcome w .committed occurredAt now)
      (pending : s.pendingWrites[w]? = some write)
      (live : s.dataTransactions[systemBytes]? = some transaction) (own : transaction.writeId = w)
      (armed : occurredAt.checkedAdd s.config.timeouts.t3 = some deadline) :
      Effect origin input ⟨s, o, none⟩ []
        ⟨{ s.eraseWrite w with
          dataTransactions :=
            s.dataTransactions.insert systemBytes { transaction with deadline := some deadline } },
          o, none⟩
  | commitCommand {s o} {w : WriteId} {write : PendingWrite} {c : CommandId}
      {result : CoreCommandResult} {occurredAt now : MonoTime}
      (outcome : input = .writeOutcome w .committed occurredAt now)
      (pending : s.pendingWrites[w]? = some write) (command : write.commandId = some c)
      (cause : CommitCause s w write c result) :
      Effect origin input ⟨s, o, none⟩ [.completeCommand c result]
        ⟨(s.eraseWrite w).detach c, o, none⟩
  | commitSilently {s o} {w : WriteId} {write : PendingWrite} {occurredAt now : MonoTime}
      (outcome : input = .writeOutcome w .committed occurredAt now)
      (pending : s.pendingWrites[w]? = some write) (orphan : write.commandId = none) :
      Effect origin input ⟨s, o, none⟩ [] ⟨s.eraseWrite w, o, none⟩
  | failWrite {s o} {w : WriteId} {write : PendingWrite} {error : OperationError}
      (pending : s.pendingWrites[w]? = some write) (cause : FailureCause input w error)
      (before : s.activeTransaction = origin.activeTransaction) :
      Effect origin input ⟨s, o, none⟩
        (write.commandId.toList.filterMap fun c => s.openCommands[c]?.map fun kind =>
          .completeCommand c (kind.errorResult error))
        ⟨((s.eraseWrite w).removeTransactionForWrite w write.kind).release write.commandId,
          o, none⟩

end Hsms
end SecsRust
