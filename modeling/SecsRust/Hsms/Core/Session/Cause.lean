import SecsRust.Hsms.Core.Session.Writes

/-!
# Why a command completes

A command leaves `open_commands` through its completion, and the Core completes it for one
of a few reasons: the round that accepted it refuses it, its drain or its transaction ends,
the peer rejects its Send, its write commits or fails, or the generation is closing.
`CompletionCause` lists the reasons, each with the table entry that ties the command to it.

An entry that ties a command to one reason excludes the others, because `Coherent` keeps the
classes of the commands apart: the command of a Request is not the command of a control
transaction, and the command that a round accepts belongs to nothing else yet.

So a later module that asks when a certain command can complete looks up its entry, and is
left with the one reason that this entry admits.  It does not go through the effects again:
`Effect.completion` has done so, and gives for each completion of an effect its cause.
-/

namespace SecsRust
namespace Hsms

open Std SessionCore

/-- The input is a write failure or a shutdown, after which the generation is closing. -/
def Input.isFailure : Input → Bool
  | .writeOutcome _ (.notWritten _) _ _ | .writeOutcome _ (.indeterminate _) _ _ => true
  | .shutdown .. => true
  | _ => false

theorem FailureCause.isFailure {input : Input} {w : WriteId} {error : OperationError}
    (h : FailureCause input w error) : input.isFailure = true := by
  cases h with
  | notWritten outcome => rw [outcome]; rfl
  | indeterminate outcome => rw [outcome]; rfl
  | notAdmitted shutdown _ => rw [shutdown]; rfl

/-- Why an effect that leaves the Core open completes a command with a result. -/
inductive CompletionCause (origin : SessionCore) (input : Input) (before : SessionCore)
    (fresh : Option CommandId) (c : CommandId) (result : CoreCommandResult) : Prop where
  | fresh (own : fresh = some c)
  | drain {drain : DeselectDrain} (live : before.closing = false)
      (pending : before.deselectDrain = some drain) (own : drain.commandId = c)
  | control {transaction : ControlTransaction} {outcome : Except OperationError Unit}
      (active : before.activeTransaction = some transaction) (own : transaction.commandId = some c)
      (result_eq : result = .control outcome) (cause : ControlCause input transaction outcome)
  | request {sb : SystemBytes} {transaction : DataTransaction} (live : before.closing = false)
      (pending : before.dataTransactions[sb]? = some transaction) (own : transaction.commandId = c)
      (cause : RequestCause input sb transaction result)
  | rejected {w : WriteId} {correlation : DataWriteCorrelation} {sessionId : UInt16}
      {headerByte2 : UInt8} {reason : RejectReason} {systemBytes : SystemBytes} {now : MonoTime}
      (live : before.closing = false)
      (received : input = .message (.control
        (.rejectRequest sessionId headerByte2 reason systemBytes)) now)
      (pending : before.pendingWrites[w]? = some ⟨.dataSend correlation, some c⟩)
      (names : correlation.matchesReject sessionId headerByte2 reason systemBytes = true)
      (result_eq : result = .send (.error (.peerRejected reason)))
  | committed {w : WriteId} {write : PendingWrite} {occurredAt now : MonoTime}
      (outcome : input = .writeOutcome w .committed occurredAt now)
      (pending : before.pendingWrites[w]? = some write) (own : write.commandId = some c)
      (cause : CommitCause before w write c result)
  | failed {w : WriteId} {write : PendingWrite} {error : OperationError} {kind : OpenCommandKind}
      (pending : before.pendingWrites[w]? = some write) (own : write.commandId = some c)
      (open_ : before.openCommands[c]? = some kind) (result_eq : result = kind.errorResult error)
      (cause : FailureCause input w error)

/-- **Why an effect completes a command**, unless it leaves the Core closing.  So the result of a
completion in an open Core can be traced to the message, the timer or the write that has brought
it about. -/
theorem Effect.completion {origin : SessionCore} {input : Input} {stage stage' : Stage}
    {actions : List CoreAction} (he : Effect origin input stage actions stage') {c : CommandId}
    {result : CoreCommandResult} (hmem : .completeCommand c result ∈ actions) :
    stage'.core.closing = true ∨
      CompletionCause origin input stage.core stage.fresh c result := by
  cases he with
  -- the Core is closing
  | ended _ _ _ _ done => exact Or.inl (by rw [done.frame])
  | lostWrite _ _ _ _ _ done => exact Or.inl (by rw [done.frame])
  | admissionClosed _ _ _ _ _ => exact Or.inl rfl
  | abandonWrites _ closing done => exact Or.inl (by rw [done.frame]; exact closing)
  | loseCommands _ closing done => exact Or.inl (by rw [done.frame]; exact closing)
  | lateControl _ closing _ _ => exact Or.inl closing
  | @separate s s' _ _ _ _ _ _ _ _ _ _ _ done =>
    have hclosed : s'.closing = true := by rw [done.frame]
    exact Or.inl hclosed
  | peerSeparate _ _ _ _ done => exact Or.inl (by rw [done.frame])
  -- one completion
  | refuse error _ _ =>
    obtain ⟨rfl, rfl⟩ := CoreAction.completeCommand.inj (List.mem_singleton.mp hmem)
    exact Or.inr (.fresh rfl)
  | spendContract _ _ _ _ _ _ =>
    obtain ⟨rfl, rfl⟩ := CoreAction.completeCommand.inj (List.mem_singleton.mp hmem)
    exact Or.inr (.fresh rfl)
  | endDrain live pending cause =>
    obtain ⟨rfl, rfl⟩ := CoreAction.completeCommand.inj (List.mem_singleton.mp hmem)
    exact Or.inr (.drain live pending rfl)
  | @retireControl s _ _ transaction outcome active cause _ =>
    cases hcommand : transaction.commandId with
    | none =>
      rw [hcommand] at hmem
      cases hmem
    | some own =>
      rw [hcommand] at hmem
      obtain ⟨rfl, rfl⟩ := CoreAction.completeCommand.inj (List.mem_singleton.mp hmem)
      exact Or.inr (.control active hcommand rfl cause)
  | retireRequest live pending cause =>
    obtain ⟨rfl, rfl⟩ := CoreAction.completeCommand.inj (List.mem_singleton.mp hmem)
    exact Or.inr (.request live pending rfl cause)
  | @rejectSend s _ _ w write correlation own _ _ _ _ _ live received pending kind command names =>
    obtain ⟨rfl, rfl⟩ := CoreAction.completeCommand.inj (List.mem_singleton.mp hmem)
    obtain ⟨_, _⟩ := write
    obtain rfl := kind
    obtain rfl := command
    exact Or.inr (.rejected live received pending names rfl)
  | commitCommand outcome pending command cause =>
    obtain ⟨rfl, rfl⟩ := CoreAction.completeCommand.inj (List.mem_singleton.mp hmem)
    exact Or.inr (.committed outcome pending command cause)
  | @failWrite s _ w write error pending cause _ =>
    obtain ⟨own, hown, haction⟩ := List.mem_filterMap.mp hmem
    obtain ⟨kind, hopen, heq⟩ := Option.map_eq_some_iff.mp haction
    obtain ⟨rfl, rfl⟩ := CoreAction.completeCommand.inj heq
    exact Or.inr (.failed pending (Option.mem_toList.mp hown) hopen rfl cause)
  -- no completion
  | lateAnnounce _ | connect _ _ _ _ _ | selected _ _ _ | deselected _ _ _ _ _ _
  | respond _ _ _ _ _ _
  | startControl _ _ _ _ _ _ _ _ _ _ | startDeselection _ _ _ _ _ | sendRequest _ _ _ _ _ _ _ _ _
  | sendPrimary _ _ _ _ _ _ _ _ _ | deliver _ _ _ _ _ _ _ _ _ | deliverOneWay _ _ _ _ _ _
  | sendReply _ _ _ _ _ _ _ => cases List.mem_singleton.mp hmem
  | tick _ | observe _ _ _ | startDrain _ _ _ _ _ _ _ | commitControl _ _ _ _ _
  | commitRequest _ _ _ _ _ | commitSilently _ _ _ => cases hmem

end Hsms
end SecsRust
