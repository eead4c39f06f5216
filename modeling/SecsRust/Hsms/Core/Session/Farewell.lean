import SecsRust.Hsms.Core.Session.Batch
import SecsRust.Hsms.Core.Session.Frames

/-!
# The last batch of a generation

A closing Core sends nothing (`frames_handle_of_closing`).  So the frames of a graceful
close are those of the one batch by which `finish_shutdown_drain` closes an open Core: the
Separate at most, after the commands it preempts and before the close that waits for it.
`frames_finishShutdownDrain` gives the frames of that batch, and
`closes_finishShutdownDrain` the barrier of its close.

The batch is read off `start_separate` directly (`startSeparate_actions`).  That is an
equation, where the other modules are content with steps, because here the order of the
actions within one batch is the subject: what comes before the frame in the batch is applied
before the frame is offered to the Writer, and the close that waits for the frame is behind
it.

A success of a Send is pushed by the commit of its write alone (`receipt_handle`), so none
of the batches that end a generation has one.  The Driver needs this where it counts
receipts.
-/

namespace SecsRust
namespace Hsms

open Std SessionCore

/-! ## Frames of a closing Core -/

/-- An effect on a closing Core sends nothing. -/
theorem Effect.frames_of_closing {origin : SessionCore} {input : Input} {stage stage' : Stage}
    {actions : List CoreAction} (he : Effect origin input stage actions stage')
    (hclosing : stage.core.closing = true) : framesOf actions = [] := by
  cases he with
  | ended reason _ _ _ _ => exact frames_endActions reason
  | lostWrite reason _ _ _ _ _ => exact frames_endActions reason
  | admissionClosed reason _ _ _ _ =>
    unfold framesOf
    rw [List.filterMap_append, frames_of_completions fun a ha => isCompletion_of_mem_loss ha]
    rfl
  | abandonWrites _ _ _ => exact frames_of_completions fun a ha =>
    isCompletion_of_mem_abandonments ha
  | loseCommands _ _ _ => exact frames_of_completions fun a ha => isCompletion_of_mem_loss ha
  | retireControl _ _ _ => exact frames_of_completions fun a ha => isCompletion_of_mem_control ha
  | failWrite _ _ _ =>
    refine frames_of_completions fun a ha => ?_
    obtain ⟨c, -, hc⟩ := List.mem_filterMap.mp ha
    obtain ⟨kind, -, rfl⟩ := Option.map_eq_some_iff.mp hc
    rfl
  | tick _ | observe _ _ _ | lateAnnounce _ | lateControl _ _ _ _ | connect _ _ _ _ _
  | selected _ _ _
  | deselected _ _ _ _ _ _ | refuse _ _ _ | startDrain _ _ _ _ _ _ _ | endDrain _ _ _
  | retireRequest _ _ _ | rejectSend _ _ _ _ _ _ | deliver _ _ _ _ _ _ _ _ _
  | deliverOneWay _ _ _ _ _ _ | spendContract _ _ _ _ _ _ | commitControl _ _ _ _ _
  | commitRequest _ _ _ _ _ | commitCommand _ _ _ _ | commitSilently _ _ _ => rfl
  | respond _ _ live _ _ _ | startControl _ _ _ live _ _ _ _ _ _ | startDeselection _ live _ _ _
  | separate _ _ live _ _ _ _ _ | peerSeparate _ live _ _ _ | sendRequest _ _ _ live _ _ _ _ _
  | sendPrimary _ _ _ live _ _ _ _ _ | sendReply _ live _ _ _ _ _ =>
    exact not_closing live hclosing

/-- **A closing Core sends nothing**, whatever it is given.  What it still does is to complete
what is open. -/
theorem frames_handle_of_closing {core : SessionCore} (hc : Coherent none core)
    (hclosing : core.closing = true) (input : Input) :
    framesOf (core.handle input).actions = [] := by
  have hround := (steps_handle hc input).accumulates_nil
    (I := fun past stage => Coherent stage.fresh stage.core ∧ stage.core.closing = true ∧
      framesOf past = [])
    (fun past stage actions stage' hI he => by
      obtain ⟨hcoherent, hclosed, hsilent⟩ := hI
      refine ⟨he.coherent hcoherent, he.closing_mono hclosed, ?_⟩
      rw [framesOf_append, hsilent, he.frames_of_closing hclosed]
      rfl)
    ⟨hc.entry input, by rwa [entry_frame], rfl⟩
  exact hround.2.2

/-! ## Receipts -/

/-- The result is the success of a Send. -/
def CoreCommandResult.isReceipt : CoreCommandResult → Bool
  | .send (.ok _) => true
  | _ => false

/-- The action completes a Send with success. -/
def CoreAction.isReceipt : CoreAction → Bool
  | .completeCommand _ result => result.isReceipt
  | _ => false

theorem isReceipt_errorResult (kind : OpenCommandKind) (error : OperationError) :
    (kind.errorResult error).isReceipt = false := by
  cases kind <;> rfl

theorem isReceipt_completion {core : SessionCore} {error : OperationError} {c : CommandId}
    {action : CoreAction} (h : core.completion error c = some action) :
    action.isReceipt = false := by
  unfold completion at h
  split at h
  · cases h
  · obtain ⟨kind, -, rfl⟩ := Option.map_eq_some_iff.mp h
    exact isReceipt_errorResult kind error

theorem isReceipt_of_mem_loss {core : SessionCore} {action : CoreAction}
    (h : action ∈ core.lossCompletions) :
    action.isReceipt = false := by
  obtain ⟨c, -, hc⟩ := List.mem_filterMap.mp h
  exact isReceipt_completion hc

theorem isReceipt_of_mem_endActions {core : SessionCore} {reason : GenerationCloseReason}
    {action : CoreAction} (h : action ∈ core.endActions reason) : action.isReceipt = false := by
  rcases List.mem_append.mp h with h | h
  · exact isReceipt_of_mem_loss h
  · split at h
    · cases h
    · rw [List.mem_singleton.mp h]
      rfl

/-- Only the commit of a write completes a Send with success. -/
theorem Effect.receipt {origin : SessionCore} {input : Input} {stage stage' : Stage}
    {actions : List CoreAction} (he : Effect origin input stage actions stage')
    (hinput : ∀ w occurredAt now, input ≠ .writeOutcome w .committed occurredAt now) :
    ∀ a ∈ actions, a.isReceipt = false := by
  have hsingle (action : CoreAction) (h : action.isReceipt = false) :
        ∀ a ∈ [action], a.isReceipt = false :=
    fun a ha => by rw [List.mem_singleton.mp ha]; exact h
  have hcontrol (c : Option CommandId) (result : Except OperationError Unit) :
      ∀ a ∈ controlCompletion c result, a.isReceipt = false := by
    cases c with
    | none => exact fun a ha => absurd ha List.not_mem_nil
    | some c => exact hsingle _ rfl
  have hseparate {core : SessionCore} : ∀ a ∈ core.separateCompletions, a.isReceipt = false := by
    intro a ha
    obtain ⟨c, -, hc⟩ := List.mem_filterMap.mp ha
    exact isReceipt_completion hc
  cases he with
  | ended _ _ _ _ _ => exact fun a ha => isReceipt_of_mem_endActions ha
  | lostWrite _ outcome _ _ _ _ => exact absurd outcome (hinput _ _ _)
  | admissionClosed _ _ _ _ _ =>
    intro a ha
    rcases List.mem_append.mp ha with ha | ha
    · exact isReceipt_of_mem_loss ha
    · rw [List.mem_singleton.mp ha]
      rfl
  | abandonWrites _ _ _ =>
    intro a ha
    obtain ⟨write, -, hwrite⟩ := List.mem_filterMap.mp ha
    obtain ⟨c, -, hc⟩ := Option.bind_eq_some_iff.mp hwrite
    obtain ⟨kind, -, rfl⟩ := Option.map_eq_some_iff.mp hc
    exact isReceipt_errorResult kind _
  | loseCommands _ _ _ => exact fun a ha => isReceipt_of_mem_loss ha
  | separate _ _ _ _ _ _ _ _ =>
    intro a ha
    rcases List.mem_append.mp ha with ha | ha
    · exact hseparate a ha
    · simp only [List.mem_cons, List.not_mem_nil, or_false] at ha
      rcases ha with rfl | rfl | rfl
      · rfl
      · rfl
      · rfl
  | peerSeparate _ _ _ _ _ =>
    intro a ha
    rcases List.mem_append.mp ha with ha | ha
    · exact hseparate a ha
    · rcases List.mem_pair.mp ha with rfl | rfl
      · rfl
      · rfl
  | failWrite _ _ _ =>
    intro a ha
    obtain ⟨c, -, hc⟩ := List.mem_filterMap.mp ha
    obtain ⟨kind, -, rfl⟩ := Option.map_eq_some_iff.mp hc
    exact isReceipt_errorResult kind _
  | retireControl _ _ _ => exact hcontrol _ _
  | retireRequest _ _ cause => exact hsingle _ (by cases cause <;> rfl)
  | spendContract _ _ _ _ _ cause => exact hsingle _ (by cases cause <;> rfl)
  | refuse _ _ _ => exact hsingle _ (isReceipt_errorResult _ _)
  | commitControl outcome _ _ _ _ | commitRequest outcome _ _ _ _ | commitCommand outcome _ _ _
  | commitSilently outcome _ _ => exact absurd outcome (hinput _ _ _)
  | tick _ | observe _ _ _
  | startDrain _ _ _ _ _ _ _ => exact fun a ha => absurd ha List.not_mem_nil
  | lateAnnounce _ | lateControl _ _ _ _ | connect _ _ _ _ _
    | selected _ _ _ | deselected _ _ _ _ _ _
  | respond _ _ _ _ _ _ | endDrain _ _ _
  | startControl _ _ _ _ _ _ _ _ _ _ | startDeselection _ _ _ _ _
  | sendRequest _ _ _ _ _ _ _ _ _ | sendPrimary _ _ _ _ _ _ _ _ _ | rejectSend _ _ _ _ _ _
  | deliver _ _ _ _ _ _ _ _ _ | deliverOneWay _ _ _ _ _ _ | sendReply _ _ _ _ _ _ _ =>
    exact hsingle _ rfl

/-- **Only the commit of a write completes a Send with success.**  A success is therefore
evidence that the frame has left. -/
theorem receipt_handle {core : SessionCore} (hc : Coherent none core) {input : Input}
    (hinput : ∀ w occurredAt now, input ≠ .writeOutcome w .committed occurredAt now) :
    ∀ a ∈ (core.handle input).actions, a.isReceipt = false :=
  (steps_handle hc input).accumulates_nil
  (I := fun past _ => ∀ a ∈ past, CoreAction.isReceipt a = false)
    (fun _ _ _ _ hI he a ha => (List.mem_append.mp ha).elim (hI a) (he.receipt hinput a))
    fun _ ha => absurd ha List.not_mem_nil

/-! ## The end of a shutdown drain -/

/-- The action completes a command, or closes the generation for the reason. -/
def CoreAction.Ends (reason : GenerationCloseReason) (action : CoreAction) : Prop :=
  action.isCompletion = true ∨ ∃ barrier, action = .closeGeneration reason barrier

namespace SessionCore

variable {core : SessionCore} {reason : GenerationCloseReason} {now : MonoTime}

theorem ends_endActions : ∀ a ∈ core.endActions reason, a.Ends reason := by
  intro a ha
  rcases List.mem_append.mp ha with ha | ha
  · exact Or.inl (isCompletion_of_mem_loss ha)
  · split at ha
    · cases ha
    · exact Or.inr ⟨.immediate, List.mem_singleton.mp ha⟩

/-- A second close has nothing to announce. -/
theorem ends_endActions_of_issued (hissued : core.closeActionIssued = true)
    {other : GenerationCloseReason} : ∀ a ∈ core.endActions other, a.Ends reason := by
  intro a ha
  unfold endActions at ha
  rw [if_pos hissued, List.append_nil] at ha
  exact Or.inl (isCompletion_of_mem_loss ha)

theorem ends_endGeneration {t : Turn} (h : ∀ a ∈ t.actions, a.Ends reason)
    (hissued : t.core.closeActionIssued = true) (other : GenerationCloseReason) :
    ∀ a ∈ (t.endGeneration other).actions, a.Ends reason := by
  intro a ha
  rw [t.endGeneration_actions] at ha
  exact (List.mem_append.mp ha).elim (h a) (ends_endActions_of_issued hissued a)

theorem ends_completeError {t : Turn} (h : ∀ a ∈ t.actions, a.Ends reason)
    (hissued : t.core.closeActionIssued = true) (c : CommandId) (error : OperationError) :
    ∀ a ∈ (t.completeError c error).actions, a.Ends reason := by
  unfold Turn.completeError
  split
  · exact ends_endGeneration h hissued _
  · unfold Turn.emitCompletion
    split
    · intro a ha
      rcases List.mem_append.mp ha with ha | ha
      · exact h a ha
      · rw [List.mem_singleton.mp ha]
        exact Or.inl rfl
    · exact ends_endGeneration h hissued _

/-- **A shutdown closes for its own reason**: at a time that Core accepts, and for a failed write if
Core is closing already. -/
theorem ends_onShutdown (haccepts : core.AcceptsTime now) {failedWriteId : Option WriteId}
    (hissued : failedWriteId.isSome = true → core.closeActionIssued = true) :
    ∀ a ∈ (core.onShutdown reason failedWriteId now).actions, a.Ends reason := by
  unfold onShutdown
  rcases (Turn.start core).acceptTime_cases now with ⟨hrefuses, -⟩ | ⟨-, heq⟩
  · exact absurd haccepts hrefuses
  · rw [heq]
    dsimp only
    cases failedWriteId with
    | none =>
      intro a ha
      have hactions := Turn.endGeneration_actions
        ((Turn.start core).update fun core => { core with lastNow := some now }) reason
      exact ends_endActions a (hactions ▸ ha)
    | some w =>
      have hissued := hissued rfl
      have hstart {t : Turn} (hactions : t.actions = []) : ∀ a ∈ t.actions, a.Ends reason := by
        rw [hactions]
        exact fun a ha => absurd ha List.not_mem_nil
      dsimp only
      split
      · exact ends_endGeneration (hstart rfl) hissued _
      · intro a ha
        rcases List.mem_append.mp ha with ha | ha
        · have ha : a ∈ (Turn.completeAll _ .connectionLost).actions := ha
          rw [Turn.completeAll_actions] at ha
          rcases List.mem_append.mp ha with ha | ha
          · revert ha
            split
            · refine ends_completeError (hstart rfl) ?_ _ _ a
              show (SessionCore.removeTransactionForWrite _ _ _).closeActionIssued = true
              rw [removeTransactionForWrite_frame]
              exact hissued
            · exact hstart rfl a
          · exact Or.inl (isCompletion_of_mem_loss ha)
        · exact Or.inr ⟨.immediate, List.mem_singleton.mp ha⟩

theorem allocateRequestIdentifiers_of_allocates {t : Turn} {systemBytes : SystemBytes} {w : WriteId}
    (h : t.core.Allocates systemBytes w) : t.allocateRequestIdentifiers =
      (t.update fun core =>
        { core with
          nextSystemBytes := u32CheckedSucc systemBytes.raw
          nextWriteId := u64CheckedSucc w.raw }, some (systemBytes, w)) := by
  unfold Turn.allocateRequestIdentifiers allocateSystemBytes allocateWriteId
  rw [h.1, h.2]
  rfl

/-- The commands that a Separate preempts before the Data commands. -/
theorem abort_actions {t : Turn} (hc : Coherent none t.core) (hlive : t.core.closing = false)
    (nextBytes : Option UInt32) (nextWrite : Option UInt64) (closing : Bool) :
    let aborted := (t.update (Turn.leaving nextBytes nextWrite closing)).abortDrain.abortTransaction
    aborted.core.closeActionIssued = t.core.closeActionIssued ∧
      ∃ completions, aborted.actions = t.actions ++ completions ∧
        ∀ a ∈ completions, a.isCompletion = true := by
  have hdrain := Turn.abortDrain_eq (t := t.update (Turn.leaving nextBytes nextWrite closing))
    (hc.drain_open hlive)
  cases hpending : t.core.deselectDrain with
  | some drain =>
    rw [show (t.update (Turn.leaving nextBytes nextWrite closing)).core.deselectDrain = some drain
      from hpending] at hdrain
    rw [hdrain, Turn.abortTransaction_of_idle]
    · exact ⟨rfl, _, rfl, fun a ha => by rw [List.mem_singleton.mp ha]; rfl⟩
    · exact (hc.drain_alone hlive (by rw [hpending]; rfl)).1
  | none =>
    rw [show (t.update (Turn.leaving nextBytes nextWrite closing)).core.deselectDrain = none
      from hpending] at hdrain
    rw [hdrain, Turn.abortTransaction_eq (t := t.update (Turn.leaving nextBytes nextWrite closing))
      hc.control_open]
    split
    · refine ⟨?_, _, rfl, fun a ha => isCompletion_of_mem_control ha⟩
      dsimp only
      rw [release_frame]
      rfl
    · exact ⟨rfl, [], (List.append_nil _).symm, fun a ha => absurd ha List.not_mem_nil⟩

/-- **The batch of a Separate**: completions, the frame, the new state, and the close that waits for
the frame. -/
theorem startSeparate_actions {t : Turn} (reason : GenerationCloseReason)
    (hc : Coherent none t.core)
    (hselected : t.core.state = some .selected) (hlive : t.core.closing = false)
    {systemBytes : SystemBytes} {w : WriteId}
    (hnext : t.core.Allocates systemBytes w) :
    ∃ completions, (t.startSeparate none reason).actions = t.actions ++ completions ++
      [.sendFrame w (.control (.separateRequest controlSessionId systemBytes)),
        .sessionStateChanged .notSelected, .closeGeneration reason (.afterWrite w)] ∧
      ∀ a ∈ completions, a.isCompletion = true := by
  obtain ⟨hissued, aborted, hactions, haborted⟩ :=
    abort_actions hc hlive (u32CheckedSucc systemBytes.raw)
    (u64CheckedSucc w.raw) true
  unfold Turn.startSeparate
  rw [if_neg (not_not_intro hselected), allocateRequestIdentifiers_of_allocates hnext]
  show ∃ completions, (((((t.update (Turn.leaving (u32CheckedSucc systemBytes.raw)
      (u64CheckedSucc w.raw)
    true)).abortDrain.abortTransaction).completeDataForDeselection.sendFrame w ⟨.separate, none⟩
      (.control (.separateRequest controlSessionId systemBytes))).push
        (.sessionStateChanged .notSelected)).requestClose reason (.afterWrite w)).actions = _ ∧ _
  generalize (t.update (Turn.leaving (u32CheckedSucc systemBytes.raw) (u64CheckedSucc w.raw)
    true)).abortDrain.abortTransaction = t₁ at hissued hactions
  have hdone := t₁.completeDataForDeselection_completes
  have hunissued : t₁.completeDataForDeselection.core.closeActionIssued = false := by
    rw [hdone.frame]
    exact hissued.trans (hc.closing_issued.trans hlive)
  refine ⟨aborted ++ t₁.core.separateCompletions, ?_, fun a ha => ?_⟩
  · rw [Turn.requestClose_actions]
    show t₁.completeDataForDeselection.actions ++ [_] ++ [_] ++
      (if t₁.completeDataForDeselection.core.closeActionIssued = true then [] else _) = _
    rw [hunissued, hdone.actions]
    show t₁.actions ++ t₁.core.separateCompletions ++ [_] ++ [_] ++ _ = _
    rw [hactions]
    simp only [List.append_assoc, List.cons_append, List.nil_append, Bool.false_eq_true, if_false]
  · exact (List.mem_append.mp ha).elim (haborted a) isCompletion_of_mem_separate

/-- A shutdown sends nothing. -/
theorem frames_onShutdown : framesOf (core.onShutdown reason none now).actions = [] := by
  have hend (t : Turn) (ht : t.actions = []) (reason : GenerationCloseReason) :
      framesOf (t.endGeneration reason).actions = [] := by
    rw [t.endGeneration_actions, ht, List.nil_append]
    exact frames_endActions reason
  unfold onShutdown
  rcases (Turn.start core).acceptTime_cases now with ⟨-, heq⟩ | ⟨-, heq⟩
  · rw [heq]
    exact hend _ rfl .runtimeInvariant
  · rw [heq]
    exact hend _ rfl reason

/-- **The frames of the last batch**: the Separate at most. -/
theorem frames_finishShutdownDrain (hc : Coherent none core) :
    framesOf (core.finishShutdownDrain reason now).actions = [] ∨ ∃ w systemBytes,
      framesOf (core.finishShutdownDrain reason now).actions =
        [(w, .control (.separateRequest controlSessionId systemBytes))] := by
  unfold finishShutdownDrain
  split
  · exact Or.inl (frames_onShutdown)
  · rename_i hopen
    simp only [not_or, not_not, Bool.not_eq_true] at hopen
    rcases (Turn.start core).acceptTime_cases now with ⟨-, heq⟩ | ⟨-, heq⟩
    · rw [heq]
      refine Or.inl ?_
      have hactions := Turn.endGeneration_actions (Turn.start core) .runtimeInvariant
      exact (congrArg framesOf hactions).trans (frames_endActions .runtimeInvariant)
    · rw [heq]
      dsimp only
      have hcoherent : Coherent none ((Turn.start core).update
          fun core => { core with lastNow := some now }).core := hc.observe rfl
      have hactions : ((Turn.start core).update
          fun core => { core with lastNow := some now }).actions = [] := rfl
      have hselected : ((Turn.start core).update
          fun core => { core with lastNow := some now }).core.state = some .selected := hopen.1
      have hlive : ((Turn.start core).update
          fun core => { core with lastNow := some now }).core.closing = false := hopen.2
      generalize (Turn.start core).update (fun core => { core with lastNow := some now }) = t at *
      rcases t.allocateRequestIdentifiers_cases with ⟨failure, hfails⟩ | ⟨sb, w, hnext, -⟩
      · refine Or.inl ?_
        unfold Turn.startSeparate
        rw [if_neg (not_not_intro hselected), hfails]
        dsimp only
        rw [t.endGeneration_actions, hactions, List.nil_append]
        exact frames_endActions failure
      · obtain ⟨completions, hbatch, hcompletions⟩ :=
          startSeparate_actions reason hcoherent hselected hlive
          hnext
        refine Or.inr ⟨w, sb, ?_⟩
        rw [hbatch, hactions, List.nil_append, framesOf_append]
        show completions.filterMap CoreAction.frame ++ _ = _
        rw [frames_of_completions hcompletions]
        rfl

/-- **The close of the last batch**: that of an open Core, at a time that it accepts and with
identifiers left, is for its own reason. -/
theorem closes_finishShutdownDrain (hc : Coherent none core) (hlive : core.closing = false)
    (haccepts : core.AcceptsTime now) (hwrite : core.nextWriteId.isSome = true)
    (hbytes : core.nextSystemBytes.isSome = true) {other : GenerationCloseReason}
    {barrier : CloseBarrier}
    (hmem : .closeGeneration other barrier ∈ (core.finishShutdownDrain reason now).actions) :
    other = reason := by
  have hends {other : GenerationCloseReason} {barrier : CloseBarrier}
      (h : (CoreAction.closeGeneration other barrier).Ends reason) : other = reason := by
    rcases h with hcompletion | ⟨barrier', heq⟩
    · cases hcompletion
    · exact (CoreAction.closeGeneration.inj heq).1
  obtain ⟨w, hw⟩ := Option.isSome_iff_exists.mp hwrite
  obtain ⟨sb, hsb⟩ := Option.isSome_iff_exists.mp hbytes
  unfold finishShutdownDrain at hmem
  split at hmem
  · have hissued : (none : Option WriteId).isSome = true → core.closeActionIssued = true := by simp
    exact hends (ends_onShutdown haccepts hissued _ hmem)
  · rename_i hopen
    simp only [not_or, not_not] at hopen
    rcases (Turn.start core).acceptTime_cases now with ⟨hrefuses, -⟩ | ⟨-, heq⟩
    · exact absurd haccepts hrefuses
    · rw [heq] at hmem
      have hnext : ((Turn.start core).update fun core =>
        { core with lastNow := some now }).core.Allocates
          ⟨sb⟩ ⟨w⟩ := ⟨hsb, hw⟩
      obtain ⟨completions, hbatch, hcompletions⟩ :=
        startSeparate_actions reason (hc.observe rfl) hopen.1 hlive hnext
      have hmem : .closeGeneration other barrier ∈ (Turn.startSeparate ((Turn.start core).update
        fun core => { core with lastNow := some now }) none reason).actions := hmem
      rw [hbatch] at hmem
      rcases List.mem_append.mp hmem with hmem | hmem
      · exact nomatch hcompletions _ hmem
      · simp only [List.mem_cons, List.not_mem_nil, or_false, reduceCtorEq, false_or] at hmem
        exact (CoreAction.closeGeneration.inj hmem).1

end SessionCore

end Hsms
end SecsRust
