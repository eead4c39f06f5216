import SecsRust.Hsms.Core.Session.Handle

/-!
# What a close revokes

A close takes away the reply contracts and the waiting drain.  `request_close` clears both,
and Separate clears both before it emits anything.  `Effect.revocation` follows the two
through every effect that leaves the Core closing: they are gone, or the Core was closing
before and they are as they were, or an admission failed.  That last close is written out in
`on_shutdown` instead of going through `request_close`, and it clears neither.

In a Core that is not closing the reply contracts belong to the Selected state, which is a
clause of `Coherent`.  Together the two bound the reply authority of the peer.

The exception is a defect and not a design: the authority of the application to answer
outlives the generation, though nothing can be sent for it any more.  So the result is
stated for the runs in which no round fails an admission (`SessionCore.FailsAdmission` names
such a round by its input and the Core before it), and
`failed_admission_keeps_reply_authority` is a run that does, with the contract still in the
table.
-/

namespace SecsRust
namespace Hsms

open Std SessionCore

/-- The ways in which an effect that ends in a closing Core treats the reply contracts and the
drain. -/
inductive Revocation (origin : SessionCore) (input : Input) (before after : SessionCore) : Prop
    where
  | revoked (contracts : after.replyContracts = ∅) (drain : after.deselectDrain = none)
  | kept (closing : before.closing = true)
      (contracts : after.replyContracts = before.replyContracts)
      (drain : after.deselectDrain = before.deselectDrain)
  | failed (failed : origin.FailsAdmission input)
      (contracts : after.replyContracts = origin.replyContracts)
      (drain : after.deselectDrain = origin.deselectDrain)

/-- **What an effect that leaves the Core closing revokes.**  The one close that leaves contracts
or a drain in place is a case of its own. -/
theorem Effect.revocation {origin : SessionCore} {input : Input} {stage stage' : Stage}
    {actions : List CoreAction} (he : Effect origin input stage actions stage')
    (hclosing : stage'.core.closing = true) :
    Revocation origin input stage.core stage'.core := by
  cases he with
  | ended _ _ _ _ done => exact .revoked (by rw [done.frame]) (by rw [done.frame])
  | lostWrite _ _ _ _ _ done => exact .revoked (by rw [done.frame]) (by rw [done.frame])
  | @separate s s' _ _ w sb _ _ _ _ _ _ _ done =>
    have hcontracts : s'.replyContracts = ∅ := by rw [done.frame]
    have hdrain : s'.deselectDrain = none := by rw [done.frame]
    exact .revoked hcontracts hdrain
  | peerSeparate _ _ _ _ done => exact .revoked (by rw [done.frame]) (by rw [done.frame])
  | @admissionClosed s s' _ _ failed drain contracts done =>
    have hcontracts : s'.replyContracts = s.replyContracts := by rw [done.frame]
    have hdrain : s'.deselectDrain = s.deselectDrain := by rw [done.frame]
    exact .failed failed (hcontracts.trans contracts) (hdrain.trans drain)
  | abandonWrites _ closing done =>
    exact .kept closing (by rw [done.frame]) (by rw [done.frame])
  | loseCommands _ closing done =>
    exact .kept closing (by rw [done.frame]) (by rw [done.frame])
  | retireControl active cause _ =>
    dsimp only at hclosing ⊢
    rw [release_frame] at hclosing ⊢
    exact .kept hclosing rfl rfl
  | failWrite pending cause _ =>
    dsimp only at hclosing ⊢
    rw [release_frame, removeTransactionForWrite_frame] at hclosing ⊢
    exact .kept hclosing rfl rfl
  -- the Core was closing before and neither table is touched
  | tick _ | observe _ _ _ | lateAnnounce _ | lateControl _ _ _ _ | refuse _ _ _
  | commitControl _ _ _ _ _ | commitRequest _ _ _ _ _ | commitCommand _ _ _ _
  | commitSilently _ _ _ => exact .kept hclosing rfl rfl
  -- the Core is not closing afterwards
  | connect _ _ live _ _ | selected _ _ live | deselected _ _ live _ _ _ | respond _ _ live _ _ _
  | startDrain _ live _ _ _ _ _ | endDrain live _ _ | startControl _ _ _ live _ _ _ _ _ _
  | startDeselection _ live _ _ _ | sendRequest _ _ _ live _ _ _ _ _
  | sendPrimary _ _ _ live _ _ _ _ _ | retireRequest live _ _ | rejectSend live _ _ _ _ _
  | deliver _ _ live _ _ _ _ _ _ | deliverOneWay _ _ live _ _ _ | spendContract _ live _ _ _ _
  | sendReply _ live _ _ _ _ _ => exact not_closing live hclosing

/-! ## Reply authority -/

namespace SessionCore

/-- The peer can be answered only in a Selected session that is not closing. -/
def RevokesReplies (core : SessionCore) : Prop :=
  core.closing = true ∨ core.state ≠ some .selected → core.replyContracts = ∅

/-- A pending write is about to fail its admission while a peer Primary waits for its reply. -/
def LeaksReplies (core : SessionCore) (input : Input) : Prop :=
  core.FailsAdmission input ∧ core.replyContracts ≠ ∅

/-- A pending write is about to fail its admission while a local Deselect is draining. -/
def LeaksDrain (core : SessionCore) (input : Input) : Prop :=
  core.FailsAdmission input ∧ core.deselectDrain ≠ none

end SessionCore

/-- One round that leaks no reply contract revokes them all when it closes. -/
theorem closing_revokes_replies {core : SessionCore} {input : Input} (hc : Coherent none core)
    (hleaks : ¬ core.LeaksReplies input)
    (h : core.closing = true → core.replyContracts = ∅) :
    (core.handle input).core.closing = true → (core.handle input).core.replyContracts = ∅ := by
  refine (steps_handle hc input).preserves
    (I := fun stage => stage.core.closing = true → stage.core.replyContracts = ∅) ?_ ?_
  · intro stage actions stage' hI he hclosing
    cases he.revocation hclosing with
    | revoked contracts _ => exact contracts
    | kept closing contracts _ => exact contracts.trans (hI closing)
    | failed failed contracts _ =>
      exact contracts.trans (not_not.mp fun hne => hleaks ⟨failed, hne⟩)
  · rw [entry_frame]
    exact h

/-- One round that leaks no drain revokes it when it closes. -/
theorem closing_revokes_drain {core : SessionCore} {input : Input} (hc : Coherent none core)
    (hleaks : ¬ core.LeaksDrain input)
    (h : core.closing = true → core.deselectDrain = none) :
    (core.handle input).core.closing = true → (core.handle input).core.deselectDrain = none := by
  refine (steps_handle hc input).preserves
    (I := fun stage => stage.core.closing = true → stage.core.deselectDrain = none) ?_ ?_
  · intro stage actions stage' hI he hclosing
    cases he.revocation hclosing with
    | revoked _ drain => exact drain
    | kept closing _ drain => exact drain.trans (hI closing)
    | failed failed _ drain =>
      exact drain.trans (not_not.mp fun hne => hleaks ⟨failed, hne⟩)
  · rw [entry_frame]
    exact h

/-- **Reply authority ends with the generation and with the Selected state**, in every run in which
no admission fails while a peer Primary waits for its reply. -/
theorem reply_authority_is_revoked (config : SessionCoreConfig) (nextWriteId : Option UInt64)
    (nextSystemBytes : Option UInt32) (inputs : List Input)
    (hleaks : machine.Along (fun core input => ¬ core.LeaksReplies input)
      (SessionCore.initial config nextWriteId nextSystemBytes) inputs) :
    (machine.after (SessionCore.initial config nextWriteId nextSystemBytes)
      inputs).RevokesReplies := by
  have hfinal := machine.invariant_along
    (I := fun core => Coherent none core ∧ (core.closing = true → core.replyContracts = ∅))
    (fun core input hstep hI => ⟨hI.1.handle input, closing_revokes_replies hI.1 hstep hI.2⟩)
    ⟨coherent_initial config nextWriteId nextSystemBytes, fun _ => rfl⟩ hleaks
  rintro (hclosing | hstate)
  · exact hfinal.2 hclosing
  · rcases Bool.eq_false_or_eq_true (machine.after (SessionCore.initial config nextWriteId
      nextSystemBytes) inputs).closing with hclosing | hlive
    · exact hfinal.2 hclosing
    · exact (hfinal.1.unselected_quiet hlive hstate).2

/-- A peer Primary is waiting for its reply when the generation stops: its contract goes. -/
theorem reply_authority_is_revoked_of_local_stop :
    (machine.after (SessionCore.new Scenario.config) (Scenario.selected ++
      [.message (.data (Scenario.primary 1 true 42)) .zero,
        .shutdown .localStop none .zero])).RevokesReplies := by
  refine reply_authority_is_revoked Scenario.config (some 0) (some 0) _ ⟨?_, ?_, ?_,
    ?_, ?_, trivial⟩
  all_goals
    rintro ⟨⟨_, _, _, heq, -⟩, -⟩
    cases heq

/-- A failed admission closes the generation and leaves a peer Primary answerable. -/
theorem failed_admission_keeps_reply_authority :
    ¬ (machine.after (SessionCore.new Scenario.config) (Scenario.selected ++
      [.message (.data (Scenario.primary 1 true 42)) .zero, .command ⟨⟨1⟩, .linktest⟩ .zero,
        .shutdown .controlBackpressure (some ⟨1⟩) .zero])).RevokesReplies := by
  intro h
  have hempty := h (Or.inl (by decide))
  have hsize := congrArg ExtTreeMap.isEmpty hempty
  revert hsize
  decide

end Hsms
end SecsRust
