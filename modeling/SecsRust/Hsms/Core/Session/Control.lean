import SecsRust.Hsms.Core.Session.Settle

/-!
# Time, identifiers and locally started work

The parts of `session.rs`, `session/timing.rs` and `session/deselect.rs` by which the Core
accepts time, arms its timers, allocates identifiers and starts local procedures.  Each
definition has the name of the function that it embeds, and takes the Turn where the source
takes `&mut self` and the action buffer.

Four of them shape the later proofs.  `acceptTime` is asked first in every round: time that
regresses ends the generation, and a handler goes on only behind an accepted time.
`startTransaction` is the one place where a control transaction comes to be, and it refuses
while another is active, which is why there is never more than one.  `startSeparate`
preempts what is alive in a fixed order, the drain of a Deselect before the transaction and
the Data commands before the frame.  And `expireDeadlines` expires what is due in a fixed
order too: the timers that close, then the Requests by their command identifiers, then the
idle probe.

`SessionCore.nextDeadline` is what the Driver asks before it presents an input; that it and
`expireDeadlines` agree about what is due is shown in `Timing`.
-/

namespace SecsRust
namespace Hsms

open Std Secs2

namespace Turn

/-! ## Time -/

/-- `accept_time`: accepts equal or increasing logical time and fails closed on regression. -/
def acceptTime (t : Turn) (now : MonoTime) : Turn × Bool :=
  if t.core.lastNow.any fun lastNow => now < lastNow then
    (t.failRuntimeInvariant, false)
  else
    (t.update fun core => { core with lastNow := some now }, true)

/-- `arm_selection_timeout`: arms one NotSelected tenure from `now`. -/
def armSelectionTimeout (t : Turn) (now : MonoTime) : Turn :=
  match now.checkedAdd t.core.config.timeouts.t7 with
  | some deadline => t.update fun core => { core with selectionDeadline := some deadline }
  | none =>
    (t.update fun core => { core with selectionDeadline := none }).noteOverflow.failRuntimeInvariant

/-- `record_activity`: records activity without letting a delayed fact move it back. -/
def recordActivity (t : Turn) (occurredAt : MonoTime) : Turn :=
  let latest := match t.core.lastActivity with
    | none => occurredAt
    | some previous => max previous occurredAt
  let t := t.update fun core => { core with lastActivity := some latest }
  match t.core.config.timeouts.linktest with
  | none => t.update fun core => { core with idleDeadline := none }
  | some interval =>
    match latest.checkedAdd interval with
    | some deadline => t.update fun core => { core with idleDeadline := some deadline }
    | none => t.noteOverflow.failRuntimeInvariant.update fun core =>
        { core with idleDeadline := none }

/-! ## Identifiers and frames -/

/-- `allocate_request_identifiers`: a fresh tuple, or a close without wrapping either space. -/
def allocateRequestIdentifiers (t : Turn) : Turn × Option (SystemBytes × WriteId) :=
  if t.core.nextWriteId.isNone then
    (t.failRuntimeInvariant, none)
  else if t.core.nextSystemBytes.isNone then
    ((t.completeAll .connectionLost).requestClose .systemBytesExhausted .immediate, none)
  else
    match t.core.allocateSystemBytes with
    | none => (t, none)
    | some (systemBytes, core) =>
      match core.allocateWriteId with
      | none => ({ t with core := core }, none)
      | some (writeId, core) => ({ t with core := core }, some (systemBytes, writeId))

/-- `pending_writes.insert` followed by the `SendFrame` push. -/
def sendFrame (t : Turn) (writeId : WriteId) (write : PendingWrite) (message : ProtocolMessage) :
    Turn :=
  (t.update fun core =>
    { core with pendingWrites := core.pendingWrites.insert writeId write }).push
      (.sendFrame writeId message)

/-- `send_response`: one response write with no associated command. -/
def sendResponse (t : Turn) (message : ControlMessage) : Turn :=
  match t.core.allocateWriteId with
  | none => t.failRuntimeInvariant
  | some (writeId, core) =>
    { t with core := core }.sendFrame writeId ⟨.response, none⟩ (.control message)

/-- `send_transaction_not_open_reject`: answers a response to which no live transaction belongs. -/
def sendTransactionNotOpenReject (t : Turn) (sessionId : UInt16) (rejectedStype : UInt8)
    (systemBytes : SystemBytes) : Turn :=
  t.sendResponse (.rejectRequest sessionId rejectedStype .transactionNotOpen systemBytes)

/-! ## Control procedures -/

/-- The request frame of a control procedure. -/
def requestMessage (kind : TransactionKind) (systemBytes : SystemBytes) : ControlMessage :=
  match kind with
  | .deselect => .deselectRequest controlSessionId systemBytes
  | .select => .selectRequest controlSessionId systemBytes
  | .linktest => .linktestRequest systemBytes

/-- `start_transaction`: one active control transaction and its request write. -/
def startTransaction (t : Turn) (kind : TransactionKind) (commandId : Option CommandId) : Turn :=
  match t.allocateRequestIdentifiers with
  | (t, none) => t
  | (t, some (systemBytes, writeId)) =>
    let t := t.update fun core =>
      { core with
        activeTransaction := some ⟨kind, commandId, controlSessionId, systemBytes, writeId, none⟩ }
    t.sendFrame writeId ⟨.transactionRequest, commandId⟩
      (.control (requestMessage kind systemBytes))

/-- `start_select`: only a session that is not selected, without a live control transaction, asks
for it. -/
def startSelect (t : Turn) (commandId : CommandId) : Turn :=
  match t.core.state with
  | some .selected => t.completeError commandId .alreadySelected
  | some .notSelected =>
    if t.core.activeTransaction.isSome then t.completeError commandId .controlBusy
    else t.startTransaction .select (some commandId)
  | _ => t.completeError commandId .connectionLost

/-- `start_linktest`: a connected session in either state, without a live control transaction. -/
def startLinktest (t : Turn) (commandId : CommandId) : Turn :=
  match t.core.state with
  | some .notSelected | some .selected =>
    if t.core.activeTransaction.isSome then t.completeError commandId .controlBusy
    else t.startTransaction .linktest (some commandId)
  | _ => t.completeError commandId .connectionLost

/-- The waiting Deselect is preempted by a local Separate. -/
def abortDrain (t : Turn) : Turn :=
  match t.core.deselectDrain with
  | some drain =>
    (t.update fun core => { core with deselectDrain := none }).completeError drain.commandId
      (.protocol .transactionAborted)
  | none => t

/-- The live control transaction is preempted by a Separate of either side. -/
def abortTransaction (t : Turn) : Turn :=
  match t.core.activeTransaction with
  | some transaction =>
    (t.update fun core => { core with activeTransaction := none }).completeControlTransaction
      transaction (.error (.protocol .transactionAborted))
  | none => t

/-- `start_separate`: starts local Separate, preempting live commands in order. -/
def startSeparate (t : Turn) (commandId : Option CommandId) (reason : GenerationCloseReason) :
    Turn :=
  if t.core.state ≠ some .selected then
    match commandId with
    | some commandId => t.completeError commandId .notSelected
    | none => t
  else
    match t.allocateRequestIdentifiers with
    | (t, none) => t
    | (t, some (systemBytes, writeId)) =>
      let t := t.update fun core => { core with state := some .notSelected, closing := true }
      let t := t.abortDrain.abortTransaction
      let t := t.completeDataForDeselection
      let t := t.sendFrame writeId ⟨.separate, commandId⟩
        (.control (.separateRequest controlSessionId systemBytes))
      (t.push (.sessionStateChanged .notSelected)).requestClose reason (.afterWrite writeId)

/-- `start_data`: validates and starts one outbound Data Send or Request. -/
def startData (t : Turn) (commandId : CommandId) (primary : PrimaryMessage)
    (replyExpected : Bool) : Turn :=
  if t.core.deselectDrain.isSome || t.core.repliesBlocked then
    t.completeError commandId .draining
  else if t.core.state ≠ some .selected then
    t.completeError commandId .notSelected
  else if primary.function.raw = 0 ∨ primary.function.raw % 2 = 0 then
    t.completeError commandId (.protocol (.invalidPrimaryFunction primary.function))
  else if replyExpected ∧ t.core.dataTransactions.size ≥ t.core.config.transactionCapacity then
    t.completeError commandId .backpressure
  else
    match t.allocateRequestIdentifiers with
    | (t, none) => t
    | (t, some (systemBytes, writeId)) =>
      let message : DataMessage :=
        ⟨⟨t.core.config.sessionId, primary.stream, primary.function, replyExpected, systemBytes⟩,
          primary.body⟩
      if replyExpected then
        let contract := ResponseContract.forRequest t.core.config.sessionId systemBytes
          primary.stream primary.function
        let collision := t.core.dataTransactions.contains systemBytes
        let t := t.update fun core =>
          { core with
            dataTransactions :=
              core.dataTransactions.insert systemBytes ⟨commandId, writeId, contract, none⟩ }
        if collision then
          t.failRuntimeInvariant
        else
          t.sendFrame writeId ⟨.dataRequest systemBytes, some commandId⟩ (.data message)
      else
        t.sendFrame writeId ⟨.dataSend ⟨t.core.config.sessionId, systemBytes⟩, some commandId⟩
          (.data message)

/-! ## Deselection -/

/-- `progress_deselect`: expires the drain first at equality, otherwise starts the drained
transaction. -/
def progressDeselect (t : Turn) (now : MonoTime) : Turn :=
  if t.core.closing then
    t
  else
    match t.core.deselectDrain with
    | none => t
    | some drain =>
      if drain.deadline ≤ now then
        (t.update fun core => { core with deselectDrain := none }).completeError drain.commandId
          (.timeout .drain)
      else if t.core.state = some .notSelected then
        (t.update fun core => { core with deselectDrain := none }).completeOk drain.commandId
      else if !t.core.dataInUse then
        (t.update fun core => { core with deselectDrain := none }).startTransaction .deselect
          (some drain.commandId)
      else
        t

/-- `start_deselect`: begins a finite drain. -/
def startDeselect (t : Turn) (commandId : CommandId) (now : MonoTime) : Turn :=
  if t.core.state ≠ some .selected then
    t.completeError commandId .notSelected
  else if t.core.activeTransaction.isSome || t.core.deselectDrain.isSome then
    t.completeError commandId .controlBusy
  else
    match now.checkedAdd t.core.config.drainTimeout with
    | some deadline =>
      (t.update fun core => { core with deselectDrain := some ⟨commandId,
        deadline⟩ }).progressDeselect
        now
    | none => t.noteOverflow.failRuntimeInvariant

/-- `commit_deselection`: commits one transition to NotSelected and starts its T7. -/
def commitDeselection (t : Turn) (now : MonoTime) : Turn :=
  if t.core.state ≠ some .notSelected then
    ((t.update fun core =>
      { core with state := some .notSelected, replyContracts := ∅ }).armSelectionTimeout now).push
        (.sessionStateChanged .notSelected)
  else
    t

/-! ## Deadlines -/

/-- The Requests whose T3 is due at `now`, in CommandId order. -/
def expiredRequests (core : SessionCore) (now : MonoTime) : List DataTransaction :=
  ((core.dataTransactions.toList.map Prod.snd).filter fun transaction =>
    transaction.deadline.any fun deadline => deadline ≤ now).insertionSort
      fun a b => a.commandId.raw ≤ b.commandId.raw

/-- The body of the T3 loop of `expire_deadlines`. -/
def expireRequest (t : Turn) (transaction : DataTransaction) : Turn :=
  (t.update fun core =>
    { core with
      dataTransactions := core.dataTransactions.erase transaction.responseContract.systemBytes
      tombstones := core.tombstones.insert transaction.responseContract }).emitCompletion
    transaction.commandId (.requestTimedOut transaction.responseContract.requestHeader)

/-- `expire_deadlines`: expires closing timers first, then T3 by CommandId, then the idle probe. -/
def expireDeadlines (t : Turn) (now : MonoTime) : Turn :=
  if t.core.closing || t.core.state.isNone then
    t
  else if t.core.selectionDeadline.any fun deadline => deadline ≤ now then
    (t.completeAll .connectionLost).requestClose (.communicationsTimeout .t7) .immediate
  else
    match t.core.activeTransaction.filter fun transaction =>
        transaction.deadline.any fun deadline => deadline ≤ now with
    | some transaction =>
      let t := (t.update fun core =>
        { core with activeTransaction := none }).completeControlTransaction transaction
          (.error (.timeout .t6))
      (t.completeAll .connectionLost).requestClose (.communicationsTimeout .t6) .immediate
    | none =>
      let t := (expiredRequests t.core now).foldl expireRequest t
      let t := t.progressDeselect now
      if t.core.closing then
        t
      else if t.core.activeTransaction.isNone && t.core.deselectDrain.isNone &&
          t.core.idleDeadline.any fun deadline => deadline ≤ now then
        (t.update fun core => { core with idleDeadline := none }).startTransaction .linktest none
      else
        t

end Turn

/-- `next_deadline`: the earliest time at which something runs out.  The idle probe counts only
while it could be sent, and a closing Core has no deadline. -/
def SessionCore.nextDeadline (core : SessionCore) : Option MonoTime :=
  if core.closing || core.state.isNone then none
  else
    (core.selectionDeadline.toList ++
      (core.activeTransaction.bind fun transaction => transaction.deadline).toList ++
      core.dataTransactions.toList.filterMap (fun (_, transaction) => transaction.deadline) ++
      (core.idleDeadline.filter fun _ =>
        core.activeTransaction.isNone && core.deselectDrain.isNone).toList ++
      (core.deselectDrain.map fun drain => drain.deadline).toList).min?

end Hsms
end SecsRust
