import SecsRust.Hsms.Core.Session.State

/-!
# Completing commands and closing

The part of `hsms/core/session.rs` that completes commands, defers errors behind unresolved
writes, and closes the generation.  An accepted command has its entry in `open_commands`,
with the class of result that its caller expects.  It completes once, by the function for
this class; a command that fails while one of its frames may still be on its way is not
completed but has its error parked (`completeOrDefer`), so that the outcome of the write
decides between the error and `DeliveryIndeterminate`.

## The recursion of the source

In the source `complete_error` fails the generation when its command is not open,
`fail_runtime_invariant` calls `complete_all`, and `complete_all` calls `complete_error`
again for every open command.  The inner calls never fail: each is made for a command that
was open when the list was collected, and nothing before it in the list completes it.  So
`completeAll` is written here with the two-way choice that is left, and
`completeAll_eq_foldl` recovers the source's own loop over `complete_or_defer`.

The checks for a missing command and for a command of another class stay in the definitions
(`emitCompletion`, `completeControl` and the others).  That no run reaches them is a theorem
and not a convention.
-/

namespace SecsRust
namespace Hsms

open Std

namespace Turn

/-! ## Completions of open commands -/

/-- The success path of `emit_completion`: the command is no longer open, and its write, if it is
still pending, has no command to report to. -/
def settle (t : Turn) (commandId : CommandId) (result : CoreCommandResult) : Turn :=
  (t.update fun core => core.detach commandId).push (.completeCommand commandId result)

/-- `deferred_errors.entry(command_id).or_insert(error)`: the first error that a command is to
get is kept until the fate of its write is known. -/
def deferError (t : Turn) (commandId : CommandId) (error : OperationError) : Turn :=
  t.update fun core =>
    { core with deferredErrors := core.deferredErrors.insertIfNew commandId error }

/-- `complete_or_defer` on a command that is open. -/
def completeOpenOrDefer (t : Turn) (error : OperationError) (commandId : CommandId) : Turn :=
  if t.core.writeUnresolved commandId then
    t.deferError commandId error
  else
    match t.core.openCommands[commandId]? with
    | some kind => t.settle commandId (kind.errorResult error)
    | none => t

/-- `complete_all`: ends protocol transactions while retaining commands with unresolved writes. -/
def completeAll (t : Turn) (error : OperationError) : Turn :=
  t.core.openCommands.keys.foldl (fun t commandId => t.completeOpenOrDefer error commandId)
    (t.update fun core => { core with activeTransaction := none, dataTransactions := ∅ })

/-! ## Closing -/

/-- `request_close`: records closing and emits the first close action. -/
def requestClose (t : Turn) (reason : GenerationCloseReason) (barrier : CloseBarrier) : Turn :=
  let t := t.update fun core =>
    { core with closing := true, deselectDrain := none, replyContracts := ∅ }
  if t.core.closeActionIssued then
    t
  else
    (t.update fun core => { core with closeActionIssued := true }).push
      (.closeGeneration reason barrier)

/-- `fail_runtime_invariant`: fails closed.  Every open command is completed, and the transport
is closed at once. -/
def failRuntimeInvariant (t : Turn) : Turn :=
  (t.completeAll .connectionLost).requestClose .runtimeInvariant .immediate

/-! ## Completions with the retained kind checked -/

/-- `emit_completion`: a command that is not open cannot be completed, and an attempt fails the
generation. -/
def emitCompletion (t : Turn) (commandId : CommandId) (result : CoreCommandResult) : Turn :=
  if t.core.openCommands.contains commandId then t.settle commandId result
  else t.failRuntimeInvariant

/-- `complete_error`: completes a command with an error, in the result type of its own class. -/
def completeError (t : Turn) (commandId : CommandId) (error : OperationError) : Turn :=
  match t.core.openCommands[commandId]? with
  | none => t.failRuntimeInvariant
  | some kind => t.emitCompletion commandId (kind.errorResult error)

/-- `complete_control`: completes a control command; any other fails the generation. -/
def completeControl (t : Turn) (commandId : CommandId) (result : Except OperationError Unit) :
    Turn :=
  if t.core.openCommands[commandId]? ≠ some .control then t.failRuntimeInvariant
  else t.emitCompletion commandId (.control result)

/-- `complete_ok`: a control command that has succeeded. -/
def completeOk (t : Turn) (commandId : CommandId) : Turn := t.completeControl commandId (.ok ())

/-- `complete_send`: completes a Send; any other command fails the generation. -/
def completeSend (t : Turn) (commandId : CommandId)
    (result : Except OperationError CommittedWrite) : Turn :=
  if t.core.openCommands[commandId]? ≠ some .send then t.failRuntimeInvariant
  else t.emitCompletion commandId (.send result)

/-- `complete_request`: completes a Request; any other command fails the generation. -/
def completeRequest (t : Turn) (commandId : CommandId)
    (result : Except OperationError MatchedSecondary) : Turn :=
  if t.core.openCommands[commandId]? ≠ some .request then t.failRuntimeInvariant
  else t.emitCompletion commandId (.request result)

/-- `complete_control_transaction`: autonomous transactions have no sender. -/
def completeControlTransaction (t : Turn) (transaction : ControlTransaction)
    (result : Except OperationError Unit) : Turn :=
  match transaction.commandId with
  | some commandId => t.completeControl commandId result
  | none => t

/-- `complete_or_defer`: a command whose write is still pending gets its error when the Writer
has reported it, so that the result can say whether the frame was seen. -/
def completeOrDefer (t : Turn) (commandId : CommandId) (error : OperationError) : Turn :=
  if t.core.writeUnresolved commandId then t.deferError commandId error
  else t.completeError commandId error

/-- `complete_data_for_deselection`: ends Data transactions, deferring deselection until
unresolved writes settle. -/
def completeDataForDeselection (t : Turn) : Turn :=
  let commandIds := t.core.openCommands.toList.filterMap fun (commandId, kind) =>
    if kind = .send ∨ kind = .request then some commandId else none
  commandIds.foldl (fun t commandId => t.completeOrDefer commandId .sessionDeselected)
    (t.update fun core => { core with dataTransactions := ∅ })

/-- `finish_failed_write`: completes one failed write and closes. -/
def finishFailedWrite (t : Turn) (writeId : WriteId) (write : PendingWrite)
    (operationError : OperationError) : Turn :=
  let t := t.update fun core => core.removeTransactionForWrite writeId write.kind
  let t := match write.commandId with
    | some commandId => t.completeError commandId operationError
    | none => t
  (t.completeAll .connectionLost).requestClose .transportLost .immediate

end Turn

end Hsms
end SecsRust
