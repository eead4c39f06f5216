import SecsRust.Hsms.Core.Session.Handle

/-!
# Closing

What a generation does once it is closing.  The Core announces a close by one
`closeGeneration`, and after it sends nothing, delivers nothing and changes the selection no
more; what is left to it is to complete the commands that wait for the outcomes of their
writes.

`ClosingStep` says how one effect moves the Core through the close: it stays open and
announces nothing, it closes and announces that as its last action, or it was closing
already and does nothing that counts.  There is one exception, in a round whose time
additions overflow: the deselection that has overflowed is announced behind the close
(`Effect.closingStep_or_late`).  Claims about runs without overflow do not meet it.

From the step come the finality of the close over whole runs and the single announcement.
`Announced` is the invariant: a closing Core has announced its close, once, and an open one
has not.  A failed admission is a close as well, though the source writes it out by hand
instead of calling `request_close`, and that is the case in which the proof has to look at
how the round began (`not_failsAdmission`).
-/

namespace SecsRust
namespace Hsms

open Std SessionCore

namespace CoreAction

/-- The actions of a generation that is still at work: frames, deliveries and state changes. -/
def isLive : CoreAction → Bool
  | sendFrame .. | deliverPrimary .. | sessionStateChanged _ => true
  | completeCommand .. | closeGeneration .. => false

/-- The announcement of a close. -/
def isClose : CoreAction → Bool
  | closeGeneration .. => true
  | sendFrame .. | deliverPrimary .. | sessionStateChanged _ | completeCommand .. => false

/-- The completions of commands, which are neither. -/
def isCompletion : CoreAction → Bool
  | completeCommand .. => true
  | sendFrame .. | deliverPrimary .. | sessionStateChanged _ | closeGeneration .. => false

theorem isLive_of_isCompletion {action : CoreAction} (h : action.isCompletion = true) :
    action.isLive = false := by
  cases action <;> first | rfl | cases h

theorem isClose_of_isCompletion {action : CoreAction} (h : action.isCompletion = true) :
    action.isClose = false := by
  cases action <;> first | rfl | cases h

end CoreAction

namespace SessionCore

variable {core : SessionCore}

theorem isCompletion_completion {error : OperationError} {c : CommandId} {action : CoreAction}
    (h : core.completion error c = some action) : action.isCompletion = true := by
  unfold completion at h
  split at h
  · cases h
  · obtain ⟨kind, -, rfl⟩ := Option.map_eq_some_iff.mp h
    rfl

theorem isCompletion_of_mem_loss {action : CoreAction} (h : action ∈ core.lossCompletions) :
    action.isCompletion = true := by
  obtain ⟨c, -, hc⟩ := List.mem_filterMap.mp h
  exact isCompletion_completion hc

theorem isCompletion_of_mem_separate {action : CoreAction} (h : action ∈ core.separateCompletions) :
    action.isCompletion = true := by
  obtain ⟨c, -, hc⟩ := List.mem_filterMap.mp h
  exact isCompletion_completion hc

theorem isCompletion_of_mem_abandonments {action : CoreAction} (h : action ∈ core.abandonments) :
    action.isCompletion = true := by
  obtain ⟨write, -, hwrite⟩ := List.mem_filterMap.mp h
  obtain ⟨c, -, hc⟩ := Option.bind_eq_some_iff.mp hwrite
  obtain ⟨kind, -, rfl⟩ := Option.map_eq_some_iff.mp hc
  rfl

theorem isCompletion_of_mem_control {c : Option CommandId} {result : Except OperationError Unit}
    {action : CoreAction} (h : action ∈ controlCompletion c result) :
    action.isCompletion = true := by
  cases c with
  | none => cases h
  | some c =>
    rw [List.mem_singleton.mp h]
    rfl

end SessionCore

/-! ## How an effect moves through the close -/

/-- The three ways in which an effect relates to the close of the generation. -/
inductive ClosingStep (failsAdmission : Prop) (before after : SessionCore)
    (actions : List CoreAction) : Prop where
  | stays (live : before.closing = false) (still : after.closing = false)
      (silent : ∀ a ∈ actions, a.isClose = false)
  | closes (live : before.closing = false) (closed : after.closing = true)
      (completions : List CoreAction) (close : CoreAction) (announced : close.isClose = true)
      (last : actions = completions ++ [close]) (silent : ∀ a ∈ completions, a.isClose = false)
  | final (closing : before.closing = true) (closed : after.closing = true)
      (quiet : ∀ a ∈ actions, a.isLive = false)
      (silent : failsAdmission ∨ ∀ a ∈ actions, a.isClose = false)

/-- A step of completions that does not move `closing`. -/
theorem ClosingStep.of_completions {failsAdmission : Prop} {before after : SessionCore}
    {actions : List CoreAction} (hclosing : after.closing = before.closing)
    (hactions : ∀ a ∈ actions, a.isCompletion = true) :
    ClosingStep failsAdmission before after actions := by
  cases hbefore : before.closing with
  | false =>
    exact .stays hbefore (hclosing.trans hbefore) fun a ha =>
      CoreAction.isClose_of_isCompletion (hactions a ha)
  | true =>
    exact .final hbefore (hclosing.trans hbefore)
      (fun a ha => CoreAction.isLive_of_isCompletion (hactions a ha))
      (Or.inr fun a ha => CoreAction.isClose_of_isCompletion (hactions a ha))

/-- The close of the generation by `complete_all` and `request_close`. -/
theorem ClosingStep.of_end {failsAdmission : Prop} {before after : SessionCore}
    (hissued : before.closeActionIssued = before.closing) (hclosed : after.closing = true)
    (reason : GenerationCloseReason) :
    ClosingStep failsAdmission before after (before.endActions reason) := by
  unfold endActions
  rw [hissued]
  cases hbefore : before.closing with
  | false =>
    exact .closes hbefore hclosed _ _ rfl rfl fun a ha =>
      CoreAction.isClose_of_isCompletion (isCompletion_of_mem_loss ha)
  | true =>
    rw [if_pos rfl, List.append_nil]
    exact .final hbefore hclosed
      (fun a ha => CoreAction.isLive_of_isCompletion (isCompletion_of_mem_loss ha))
      (Or.inr fun a ha => CoreAction.isClose_of_isCompletion (isCompletion_of_mem_loss ha))

/-- **How one effect relates to the close.**  After a time addition has overflowed a closing Core
may still push an action, but it announces no second close. -/
theorem Effect.closingStep_or_late {origin : SessionCore} {input : Input} {stage stage' : Stage}
    {actions : List CoreAction} (h : Coherent stage.fresh stage.core)
    (he : Effect origin input stage actions stage') :
    ClosingStep (origin.FailsAdmission input) stage.core stage'.core actions ∨
      (stage'.overflowed = true ∧ stage.core.closing = true ∧
        ∀ a ∈ actions, a.isClose = false) := by
  cases he with
  | @ended s pre s' _ _ _ reason frame _ _ done =>
    exact Or.inl (.of_end h.closing_issued (by rw [done.frame]) reason)
  | @lostWrite s pre s' _ _ w _ _ _ reason _ _ live _ done =>
    have hend : ClosingStep (origin.FailsAdmission input) (s.eraseWrite w) s'
        ((s.eraseWrite w).endActions reason) :=
      .of_end (show (s.eraseWrite w).closeActionIssued = (s.eraseWrite w).closing from
        h.closing_issued) (by rw [done.frame]) reason
    refine Or.inl ?_
    cases hend with
    | stays live still silent => exact .stays live still silent
    | closes live closed completions close announced last silent =>
      exact .closes live closed completions close announced last silent
    | final closing closed quiet silent => exact .final closing closed quiet silent
  | @lateAnnounce s f closing =>
    refine Or.inr ⟨rfl, closing, fun a ha => ?_⟩
    rw [List.mem_singleton.mp ha]
    rfl
  | @lateControl s f c result closing _ _ =>
    refine Or.inr ⟨rfl, closing, fun a ha => ?_⟩
    rw [List.mem_singleton.mp ha]
    rfl
  | @admissionClosed s s' _ reason failed _ _ done =>
    refine Or.inl ?_
    cases hclosing : s.closing with
    | false =>
      exact .closes hclosing rfl _ _ rfl rfl fun a ha =>
        CoreAction.isClose_of_isCompletion (isCompletion_of_mem_loss ha)
    | true =>
      refine .final hclosing rfl (fun a ha => ?_) (Or.inl failed)
      rcases List.mem_append.mp ha with ha | ha
      · exact CoreAction.isLive_of_isCompletion (isCompletion_of_mem_loss ha)
      · rw [List.mem_singleton.mp ha]
        rfl
  | @abandonWrites s s' _ _ _ closing done =>
    refine Or.inl ?_
    refine .of_completions ?_ fun a ha => isCompletion_of_mem_abandonments ha
    dsimp only
    rw [done.frame]
  | @loseCommands s s' _ _ _ closing done =>
    refine Or.inl ?_
    refine .of_completions ?_ fun a ha => isCompletion_of_mem_loss ha
    dsimp only
    rw [done.frame]
  | @separate s s' _ f w sb reason _ live _ _ _ _ done =>
    refine Or.inl ?_
    have hclosed : s'.closing = true := by rw [done.frame]
    refine .closes live hclosed (s.separateCompletions ++
      [.sendFrame w (.control (.separateRequest controlSessionId sb)),
        .sessionStateChanged .notSelected]) (.closeGeneration reason (.afterWrite w)) rfl (by simp)
      fun a ha => ?_
    rcases List.mem_append.mp ha with ha | ha
    · exact CoreAction.isClose_of_isCompletion (isCompletion_of_mem_separate ha)
    · rcases List.mem_pair.mp ha with rfl | rfl
      · rfl
      · rfl
  | @peerSeparate s s' _ _ live _ _ done =>
    refine Or.inl ?_
    have hclosed : s'.closing = true := by rw [done.frame]
    refine .closes live hclosed (s.separateCompletions ++ [.sessionStateChanged .notSelected])
      (.closeGeneration .separateReceived .immediate) rfl (by simp) fun a ha => ?_
    rcases List.mem_append.mp ha with ha | ha
    · exact CoreAction.isClose_of_isCompletion (isCompletion_of_mem_separate ha)
    · rw [List.mem_singleton.mp ha]
      rfl
  | @retireControl s _ f transaction result _ _ _ =>
    refine Or.inl ?_
    refine .of_completions ?_ fun a ha => isCompletion_of_mem_control ha
    dsimp only
    rw [release_frame]
  | @failWrite s _ w write error _ _ _ =>
    refine Or.inl ?_
    refine .of_completions ?_ fun a ha => ?_
    · dsimp only
      rw [release_frame, removeTransactionForWrite_frame]
      rfl
    · obtain ⟨c, -, hc⟩ := List.mem_filterMap.mp ha
      obtain ⟨kind, -, rfl⟩ := Option.map_eq_some_iff.mp hc
      rfl
  -- nothing at all, or one completion
  | tick _ | observe _ _ _ | startDrain _ _ _ _ _ _ _ | commitControl _ _ _ _ _
  | commitRequest _ _ _ _ _ | commitSilently _ _ _ => exact Or.inl (.of_completions rfl nofun)
  | refuse _ _ _ | endDrain _ _ _ | retireRequest _ _ _ | rejectSend _ _ _ _ _ _
  | spendContract _ _ _ _ _ _ | commitCommand _ _ _ _ =>
    refine Or.inl ?_
    refine .of_completions rfl fun a ha => ?_
    rw [List.mem_singleton.mp ha]
    rfl
  -- one live action of a Core that stays open
  | connect _ _ live _ _ | selected _ _ live | deselected _ _ live _ _ _ | respond _ _ live _ _ _
  | startControl _ _ _ live _ _ _ _ _ _ | startDeselection _ live _ _ _
  | sendRequest _ _ _ live _ _ _ _ _ | sendPrimary _ _ _ live _ _ _ _ _
  | deliver _ _ live _ _ _ _ _ _ | deliverOneWay _ _ live _ _ _ | sendReply _ live _ _ _ _ _ =>
    refine Or.inl ?_
    refine .stays live live fun a ha => ?_
    rw [List.mem_singleton.mp ha]
    rfl

/-- How one effect relates to the close, as long as no time addition has overflowed. -/
theorem Effect.closingStep {origin : SessionCore} {input : Input} {stage stage' : Stage}
    {actions : List CoreAction} (h : Coherent stage.fresh stage.core)
    (he : Effect origin input stage actions stage') (hoverflow : stage'.overflowed = false) :
    ClosingStep (origin.FailsAdmission input) stage.core stage'.core actions := by
  rcases he.closingStep_or_late h with hstep | ⟨hlate, -, -⟩
  · exact hstep
  · rw [hoverflow] at hlate
    cases hlate

/-- An effect that ends without an overflow began without one. -/
theorem Effect.overflow_mono {origin : SessionCore} {input : Input} {stage stage' : Stage}
    {actions : List CoreAction} (he : Effect origin input stage actions stage')
    (h : stage'.overflowed = false) : stage.overflowed = false := by
  cases he with
  | ended _ _ _ overflow _ =>
    refine Bool.eq_false_of_not_eq_true fun htrue => ?_
    rw [show _ = true from overflow htrue] at h
    cases h
  | lostWrite _ _ _ _ _ _ | lateAnnounce _ | lateControl _ _ _ _ => cases h
  | _ => exact h

/-! ## The history of closes -/

/-- The announcements so far: there is one exactly when the Core is closing, and nothing live
follows it. -/
structure Announced (past : List CoreAction) (core : SessionCore) : Prop where
  closing : core.closing = true ↔ ∃ a ∈ past, a.isClose = true
  final : past.Pairwise fun a b => a.isClose = true → b.isLive = false

theorem Announced.step {failsAdmission : Prop} {past actions : List CoreAction}
    {before after : SessionCore} (h : Announced past before)
    (hstep : ClosingStep failsAdmission before after actions) :
    Announced (past ++ actions) after := by
  have hopen : before.closing = false → ∀ a ∈ past, ¬ a.isClose = true := by
    intro hlive a ha hclose
    rw [h.closing.mpr ⟨a, ha, hclose⟩] at hlive
    cases hlive
  have hpair : ∀ {l : List CoreAction}, (∀ a ∈ l, a.isClose = false) →
      l.Pairwise fun a b => a.isClose = true → b.isLive = false := by
    intro l hl
    refine List.pairwise_of_forall_mem_list fun a ha b _ hclose => ?_
    rw [hl a ha] at hclose
    cases hclose
  cases hstep with
  | stays live still silent =>
    refine ⟨?_, ?_⟩
    · rw [still]
      refine ⟨nofun, ?_⟩
      rintro ⟨a, ha, hclose⟩
      rcases List.mem_append.mp ha with ha | ha
      · exact absurd hclose (hopen live a ha)
      · rw [silent a ha] at hclose
        cases hclose
    · exact List.pairwise_append.mpr ⟨h.final, hpair silent, fun a ha _ _ hclose =>
        absurd hclose (hopen live a ha)⟩
  | closes live closed completions close announced last silent =>
    subst last
    refine ⟨?_, ?_⟩
    · refine ⟨fun _ => ⟨close, ?_, announced⟩, fun _ => closed⟩
      exact List.mem_append_right _ (List.mem_append_right _ (List.mem_singleton_self _))
    · refine List.pairwise_append.mpr ⟨h.final, ?_, fun a ha _ _ hclose =>
        absurd hclose (hopen live a ha)⟩
      refine List.pairwise_append.mpr ⟨hpair silent, List.pairwise_singleton _ _, ?_⟩
      intro a ha _ _ hclose
      rw [silent a ha] at hclose
      cases hclose
  | final closing closed quiet _ =>
    obtain ⟨a, ha, hclose⟩ := h.closing.mp closing
    refine ⟨⟨fun _ => ⟨a, List.mem_append_left _ ha, hclose⟩, fun _ => closed⟩, ?_⟩
    exact List.pairwise_append.mpr ⟨h.final,
      List.pairwise_of_forall_mem_list fun _ _ b hb _ => quiet b hb, fun _ _ b hb _ => quiet b hb⟩

/-- The number of announcements of a run without a failed admission. -/
theorem countP_isClose_step {past actions : List CoreAction} {before after : SessionCore}
    (h : past.countP CoreAction.isClose = if before.closing then 1 else 0)
    (hstep : ClosingStep False before after actions) :
    (past ++ actions).countP CoreAction.isClose = if after.closing then 1 else 0 := by
  have hsilent : ∀ {l : List CoreAction}, (∀ a ∈ l, a.isClose = false) →
      l.countP CoreAction.isClose = 0 := by
    intro l hl
    rw [List.countP_eq_zero]
    intro a ha
    rw [hl a ha]
    exact Bool.false_ne_true
  rw [List.countP_append, h]
  cases hstep with
  | stays live still silent =>
    rw [live, still, hsilent silent]
    rfl
  | closes live closed completions close announced last silent =>
    rw [last, List.countP_append, hsilent silent, live, closed, List.countP_singleton, announced]
    rfl
  | final closing closed quiet silent =>
    rw [closing, closed, hsilent (silent.resolve_left id)]
    rfl

/-- One round extends the history of announcements. -/
theorem Announced.handle {past : List CoreAction} {core : SessionCore} {input : Input}
    (h : Announced past core) (hc : Coherent none core)
    (hoverflow : (core.handle input).overflowed = false) :
    Announced (past ++ (core.handle input).actions) (core.handle input).core := by
  have hentry : Announced past (core.entry input).core := by
    rw [entry_frame]
    exact ⟨h.closing, h.final⟩
  have hround := (steps_handle hc input).accumulates
    (I := fun past stage => Coherent stage.fresh stage.core ∧
      (stage.overflowed = false → Announced past stage.core))
    (fun past stage actions stage' hI he => ⟨he.coherent hI.1, fun hover =>
      (hI.2 (he.overflow_mono hover)).step (he.closingStep hI.1 hover)⟩)
    ⟨hc.entry input, fun _ => hentry⟩
  exact hround.2 hoverflow

/-- One round without a failed admission announces at most once. -/
theorem countP_isClose_handle {past : List CoreAction} {core : SessionCore} {input : Input}
    (h : past.countP CoreAction.isClose = if core.closing then 1 else 0) (hc : Coherent none core)
    (hoverflow : (core.handle input).overflowed = false)
    (hadmission : ¬ core.FailsAdmission input) :
    (past ++ (core.handle input).actions).countP CoreAction.isClose =
      if (core.handle input).core.closing then 1 else 0 := by
  have hentry : (core.entry input).core.closing = core.closing := by rw [entry_frame]
  have hround := (steps_handle hc input).accumulates
    (I := fun past stage => Coherent stage.fresh stage.core ∧ (stage.overflowed = false →
      past.countP CoreAction.isClose = if stage.core.closing then 1 else 0))
    (fun past stage actions stage' hI he => ⟨he.coherent hI.1, fun hover => by
      have hstep := he.closingStep hI.1 hover
      rw [eq_false hadmission] at hstep
      exact countP_isClose_step (hI.2 (he.overflow_mono hover)) hstep⟩)
    ⟨hc.entry input, fun _ => by rw [hentry]; exact h⟩
  exact hround.2 hoverflow

/-- The input reports no failed admission. -/
def Input.failsNoWrite : Input → Bool
  | .shutdown _ (some _) _ => false
  | _ => true

theorem not_failsAdmission {core : SessionCore} {input : Input} (h : input.failsNoWrite = true) :
    ¬ core.FailsAdmission input := by
  rintro ⟨_, _, _, rfl, -⟩
  cases h

/-- **Closing is final and announced**, in every run in which no time addition overflows.  The Core
is closing exactly when a close has been announced; after an announcement, in its own batch and in
all later ones, nothing is sent or delivered and no state change is reported; so once an input
leaves the Core closing, no later input does any of this; and a run in which no admission fails
announces exactly one close if it ends closing and none otherwise. -/
theorem closing_is_final_and_announced (config : SessionCoreConfig) (nextWriteId : Option UInt64)
    (nextSystemBytes : Option UInt32) (inputs : List Input)
    (hoverflow : machine.Along (fun core input => (core.handle input).overflowed = false)
      (SessionCore.initial config nextWriteId nextSystemBytes) inputs) :
    let core := SessionCore.initial config nextWriteId nextSystemBytes
    (∀ earlier later, inputs = earlier ++ later → (machine.after core earlier).closing = true →
      (machine.after core inputs).closing = true ∧
        ∀ a ∈ machine.history (machine.after core earlier) later, a.isLive = false) ∧
    (machine.history core inputs).Pairwise (fun a b => a.isClose = true → b.isLive = false) ∧
    ((machine.after core inputs).closing = true ↔
      ∃ a ∈ machine.history core inputs, a.isClose = true) ∧
    ((∀ input ∈ inputs, input.failsNoWrite = true) →
      (machine.history core inputs).countP CoreAction.isClose =
        if (machine.after core inputs).closing then 1 else 0) := by
  intro core
  have hcore : Coherent none core := coherent_initial config nextWriteId nextSystemBytes
  have hannounced : ∀ is, machine.Along (fun core input => (core.handle input).overflowed = false)
      core is → Announced (machine.history core is) (machine.after core is) := by
    intro is halong
    have hrun := machine.invariant_history_along
      (I := fun past core => Coherent none core ∧ Announced past core)
      (fun past core input hstep hI => ⟨hI.1.handle input, hI.2.handle hI.1 hstep⟩)
      ⟨hcore, ⟨nofun, by rintro ⟨a, ha, -⟩; cases ha⟩, List.Pairwise.nil⟩ halong
    exact hrun.2
  refine ⟨?_, (hannounced inputs hoverflow).final, (hannounced inputs hoverflow).closing, ?_⟩
  · rintro earlier later rfl hclosing
    obtain ⟨halong, -⟩ := Machine.along_append.mp hoverflow
    obtain ⟨a, ha, hclose⟩ := (hannounced earlier halong).closing.mp hclosing
    have hall := hannounced (earlier ++ later) hoverflow
    rw [Machine.history_append] at hall
    exact ⟨hall.closing.mpr ⟨a, List.mem_append_left _ ha, hclose⟩,
      fun b hb => (List.pairwise_append.mp hall.final).2.2 a ha b hb hclose⟩
  · intro hadmission
    have hstart : ([] : List CoreAction).countP CoreAction.isClose =
        if core.closing then 1 else 0 := rfl
    have hrun := machine.invariant_history_along
      (I := fun past core => Coherent none core ∧
        past.countP CoreAction.isClose = if core.closing then 1 else 0)
      (fun past core input hstep hI => ⟨hI.1.handle input,
        countP_isClose_handle hI.2 hI.1 hstep.1 (not_failsAdmission hstep.2)⟩)
      ⟨hcore, hstart⟩ (hoverflow.and_inputs hadmission)
    exact hrun.2

/-- A selected session in which a Send is closed over by the end of its generation. -/
theorem closing_is_final_and_announced_of_local_stop :
    (machine.after (SessionCore.new Scenario.config) (Scenario.selected ++
      [.command ⟨⟨1⟩, .send Scenario.request⟩ .zero, .shutdown .localStop none .zero])).closing =
        true ∧
    ∃ a ∈ machine.history (SessionCore.new Scenario.config) (Scenario.selected ++
      [.command ⟨⟨1⟩, .send Scenario.request⟩ .zero, .shutdown .localStop none .zero]),
        a.isClose = true := by
  have hoverflow : machine.Along (fun core input => (core.handle input).overflowed = false)
      (SessionCore.initial Scenario.config (some 0) (some 0)) (Scenario.selected ++
        [.command ⟨⟨1⟩, .send Scenario.request⟩ .zero, .shutdown .localStop none .zero]) := by
    refine ⟨?_, ?_, ?_, ?_, ?_, trivial⟩
    all_goals decide
  have h := closing_is_final_and_announced Scenario.config (some 0) (some 0) _ hoverflow
  have hclosing : (machine.after (SessionCore.new Scenario.config) (Scenario.selected ++
      [.command ⟨⟨1⟩, .send Scenario.request⟩ .zero,
        .shutdown .localStop none .zero])).closing = true := by decide
  exact ⟨hclosing, h.2.2.1.mp hclosing⟩

end Hsms
end SecsRust
