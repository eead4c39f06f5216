import SecsRust.Hsms.Core.Session.Procedure
import SecsRust.Hsms.Generation.Driver.Books
import SecsRust.Hsms.Generation.Driver.Calls

/-!
# The end of a shutdown drain in the Driver

`finish_shutdown_drain` gives Core its last call while it is open: Core completes what is
left, sends Separate if the session is selected, and closes.  What becomes of this close in
the Driver matters to whoever has asked for a graceful end.

The first question is for which reason the generation closes.  The batch closes for the
reason of the call; but the Writer may refuse the Separate, and the failure is then a
shutdown for another reason.  It is handled with the first reason, which is that of the call
(`Round.reason_finishShutdownDrain`).  `ClosesFor` follows the reason through the functions:
a close that has begun keeps its reason, whatever happens later.

The second question is what is still written.  Once Core is closing it hands out no frames,
so what the Driver hands to the Writer from then on are the frames of that one batch
(`LastFrames`).  `FinishedFrames` states it for a history, since every end of a shutdown
drain in it.

No other operation makes this call of Core (`Round.unfinishing_perform`), so a history shows
when it was made.
-/

namespace SecsRust
namespace Hsms

open Std Secs2 SessionDriver SessionCore WriterIngress

universe u v

variable {W : Type u} {κ : Type v}

/-! ## The reason of a close -/

/-- The close is as it was, or it has begun for this reason. -/
def ClosesFor (reason : GenerationCloseReason) (before after : SessionDriver W κ) : Prop :=
  after.closing.map ClosingState.reason = before.closing.map ClosingState.reason ∨
    before.closing = none ∧ after.closing.map ClosingState.reason = some reason

namespace ClosesFor

variable {reason : GenerationCloseReason} {d d' d'' : SessionDriver W κ}

theorem of_eq (h : d'.closing = d.closing) : ClosesFor reason d d' := Or.inl (by rw [h])

theorem trans (h : ClosesFor reason d d') (h' : ClosesFor reason d' d'') :
    ClosesFor reason d d'' := by
  rcases h with hsame | ⟨hnone, hsome⟩
  · rcases h' with hsame' | ⟨hnone', hsome'⟩
    · exact Or.inl (hsame'.trans hsame)
    · rw [hnone', Option.map_none] at hsame
      exact Or.inr ⟨Option.map_eq_none_iff.mp hsame.symm, hsome'⟩
  · rcases h' with hsame' | ⟨hnone', -⟩
    · exact Or.inr ⟨hnone, hsame'.trans hsome⟩
    · rw [hnone'] at hsome
      cases hsome

theorem isSome (h : ClosesFor reason d d') (hclosing : d.closing.isSome = true) :
    d'.closing.isSome = true := by
  rcases h with hsame | ⟨hnone, -⟩
  · rw [← Option.isSome_map (f := ClosingState.reason), hsame, Option.isSome_map]
    exact hclosing
  · rw [hnone] at hclosing
    cases hclosing

/-- A close that has begun has its reason. -/
theorem reason_eq (h : ClosesFor reason d d') (hopen : d.closing = none)
    (hclosing : d'.closing.isSome = true) :
    d'.closing.map ClosingState.reason = some reason := by
  rcases h with hsame | ⟨-, hsome⟩
  · rw [hopen, Option.map_none, Option.map_eq_none_iff] at hsame
    rw [hsame] at hclosing
    cases hclosing
  · exact hsome

end ClosesFor

namespace Round

variable {r : Round W κ} {reason : GenerationCloseReason} {now : MonoTime}

theorem closesFor_beginClosing (r : Round W κ) (reason : GenerationCloseReason)
    (barrier : CloseBarrier) :
    ClosesFor reason r.driver (r.beginClosing reason barrier).driver := by
  rw [beginClosing_eq]
  unfold ClosesFor closeWith
  cases hclosing : r.driver.closing with
  | none => exact Or.inr ⟨rfl, rfl⟩
  | some closing =>
    refine Or.inl ?_
    dsimp only
    split_ifs
    · rfl
    · rfl

variable [WriterIngress W]

/-- Only a close closes. -/
theorem closing_applyAction (permit : Option (DataPermit W)) {action : CoreAction}
    (h : action.isClose = false) :
    (r.applyAction permit action).1.driver.closing = r.driver.closing := by
  have hrecord (r : Round W κ) (frame : OutboundFrame) :
      (r.recordAdmission frame).1.driver.closing = r.driver.closing := by
    unfold recordAdmission
    dsimp only
    split_ifs
    · rfl
    · rfl
  cases action with
  | deliverPrimary message capability =>
    unfold applyAction
    dsimp only
    split_ifs
    · rfl
    · rfl
  | sendFrame writeId message =>
    unfold applyAction sendFrame
    dsimp only
    split
    · split
      · rfl
      · exact hrecord _ _
    · split
      · rfl
      · split
        · rfl
        · exact hrecord _ _
  | sessionStateChanged state => rfl
  | completeCommand commandId result =>
    unfold applyAction completeCommand
    dsimp only
    split
    · rfl
    · split
      · rfl
      · rfl
  | closeGeneration reason barrier => cases h

theorem closesFor_applyAction (permit : Option (DataPermit W)) {action : CoreAction}
    (h : ∀ other barrier, action = .closeGeneration other barrier → other = reason) :
    ClosesFor reason r.driver (r.applyAction permit action).1.driver := by
  cases action with
  | closeGeneration other barrier =>
    obtain rfl := h other barrier rfl
    exact closesFor_beginClosing r other barrier
  | deliverPrimary _ _ | sendFrame _ _ | sessionStateChanged _ | completeCommand _ _ =>
    exact .of_eq (closing_applyAction permit rfl)

/-- **A batch closes for the reason of its closes**, and if it is applied to its end it does. -/
theorem closesFor_applyEach (permit : Option (DataPermit W)) {actions : List CoreAction}
    (h : ∀ other barrier, .closeGeneration other barrier ∈ actions → other = reason) :
    ClosesFor reason r.driver (r.applyEach permit actions).1.driver ∧
      ((r.applyEach permit actions).2.2 = none → (∃ a ∈ actions, a.isClose = true) →
        (r.applyEach permit actions).1.driver.closing.isSome = true) := by
  induction actions generalizing r permit with
  | nil => exact ⟨.of_eq rfl, fun _ ⟨_, ha, _⟩ => absurd ha List.not_mem_nil⟩
  | cons action actions ih =>
    have hone : ClosesFor reason r.driver (r.applyAction permit action).1.driver :=
      closesFor_applyAction permit fun other barrier heq =>
        h other barrier (heq ▸ List.mem_cons_self)
    have hcloses : action.isClose = true →
        (r.applyAction permit action).1.driver.closing.isSome = true := by
      intro hclose
      cases action with
      | closeGeneration other barrier => exact closing_beginClosing r other barrier
      | deliverPrimary _ _ | sendFrame _ _ | sessionStateChanged _ | completeCommand _ _ =>
        cases hclose
    unfold applyEach
    split
    · next happly =>
      rw [happly] at hone
      exact ⟨hone, fun hnone => (nomatch hnone)⟩
    · next r₁ permit₁ happly =>
      rw [happly] at hone hcloses
      obtain ⟨hrest, hclosed⟩ := ih (r := r₁) permit₁ fun other barrier hmem =>
        h other barrier (List.mem_cons_of_mem _ hmem)
      refine ⟨hone.trans hrest, fun hnone => ?_⟩
      rintro ⟨a, ha, hclose⟩
      rcases List.mem_cons.mp ha with rfl | ha
      · exact hrest.isSome (hcloses hclose)
      · exact hclosed hnone ⟨a, ha, hclose⟩

/-- Without a permit none appears. -/
theorem permit_applyAction (r : Round W κ) (action : CoreAction) :
    (r.applyAction (none : Option (DataPermit W)) action).2.1 = none := by
  cases action with
  | deliverPrimary message capability =>
    unfold applyAction
    dsimp only
    split_ifs
    · rfl
    · rfl
  | sendFrame writeId message =>
    unfold applyAction sendFrame
    dsimp only
    split
    · split
      · rfl
      · rfl
    · rfl
  | sessionStateChanged _ | completeCommand _ _ | closeGeneration _ _ => rfl

theorem permit_applyEach (r : Round W κ) (actions : List CoreAction) :
    (r.applyEach (none : Option (DataPermit W)) actions).2.1 = none := by
  induction actions generalizing r with
  | nil => rfl
  | cons action actions ih =>
    have hone := permit_applyAction r action
    unfold applyEach
    split
    · next happly =>
      rw [happly] at hone
      exact hone
    · next r₁ permit₁ happly =>
      rw [happly] at hone
      rw [show permit₁ = none from hone]
      exact ih r₁

theorem applyActionBatch_eq (r : Round W κ) (actions : List CoreAction) :
    r.applyActionBatch actions none =
      ((r.applyEach (none : Option (DataPermit W)) actions).1,
        (r.applyEach (none : Option (DataPermit W)) actions).2.2) := by
  have hpermit := permit_applyEach r actions
  unfold applyActionBatch
  split
  · next happly => rw [happly]
  · next happly =>
    rw [happly] at hpermit
    cases hpermit

/-- **A batch of completions and closes is applied to its end**, if none of them is the success of a
Send. -/
theorem applyEach_succeeds {o : Option (SessionCore × Input)} {actions : List CoreAction}
    (h : Booked ⟨r.driver, o, actions⟩) (permit : Option (DataPermit W))
    (hends : ∀ a ∈ actions, a.Ends reason) (hreceipts : ∀ a ∈ actions, a.isReceipt = false) :
    (r.applyEach permit actions).2.2 = none := by
  induction actions generalizing r permit with
  | nil => rfl
  | cons action actions ih =>
    have hfailure : (r.applyAction permit action).2.2 = none := by
      rcases hends action List.mem_cons_self with hcompletion | ⟨barrier, rfl⟩
      · cases action with
        | completeCommand c result =>
          exact completeCommand_succeeds h.table (hreceipts _ List.mem_cons_self)
        | deliverPrimary _ _ | sendFrame _ _ | sessionStateChanged _ | closeGeneration _ _ =>
          cases hcompletion
      · rfl
    have htried : Tries false r o (action :: actions) _ _ actions := tries_applyAction permit action
    obtain ⟨p, hlead, hrest⟩ := htried
    unfold applyEach
    split
    · next happly =>
      rw [happly] at hfailure
      cases hfailure
    · next r₁ permit₁ happly =>
      rw [happly] at hlead hrest
      rw [hrest rfl] at hlead
      exact ih (h.leads hlead) permit₁ (fun a ha => hends a (List.mem_cons_of_mem _ ha))
        fun a ha => hreceipts a (List.mem_cons_of_mem _ ha)

/-! ## The reason of a shutdown drain -/

theorem closesFor_applyActionBatch {actions : List CoreAction}
    (h : ∀ other barrier, .closeGeneration other barrier ∈ actions → other = reason) :
    ClosesFor reason r.driver (r.applyActionBatch actions none).1.driver ∧
      ((r.applyActionBatch actions none).2 = none → (∃ a ∈ actions, a.isClose = true) →
        (r.applyActionBatch actions none).1.driver.closing.isSome = true) := by
  rw [applyActionBatch_eq]
  exact closesFor_applyEach none h

/-- A shutdown after a failure closes for its reason: shutting Core down completes what it still has
open.  Where a write has failed, Core is closing already. -/
theorem closesFor_shutdownAfterDriverFailure {call : SessionCore × Input} {p : List CoreAction}
    (h : Booked ⟨r.driver, some call, p⟩) (haccepts : r.driver.core.AcceptsTime now)
    {failedWriteId : Option WriteId} (hclosing : failedWriteId.isSome = true →
      r.driver.core.closing = true) :
    ClosesFor reason r.driver (r.shutdownAfterDriverFailure reason failedWriteId now).driver := by
  have hcoherent : Coherent none r.driver.core := h.sound.coherent
  have hends : ∀ a ∈ (r.callCore (.shutdown reason failedWriteId now)).2, a.Ends reason :=
    ends_onShutdown haccepts fun hfailed => hcoherent.closing_issued.trans (hclosing hfailed)
  have hbooked := h.leads (leads_callShutdown reason failedWriteId now)
  have hsuccess : ((r.callCore (.shutdown reason failedWriteId now)).1.applyActionBatch
      (r.callCore (.shutdown reason failedWriteId now)).2 none).2 = none := by
    rw [applyActionBatch_eq]
    exact applyEach_succeeds hbooked none hends (receipt_handle hcoherent nofun)
  have hreason : ∀ other barrier, .closeGeneration other barrier ∈
      (r.callCore (.shutdown reason failedWriteId now)).2 → other = reason := by
    intro other barrier hmem
    rcases hends _ hmem with hcompletion | ⟨_, heq⟩
    · cases hcompletion
    · exact (CoreAction.closeGeneration.inj heq).1
  obtain ⟨hcloses, -⟩ := closesFor_applyActionBatch
    (r := (r.callCore (.shutdown reason failedWriteId now)).1)
    hreason
  unfold shutdownAfterDriverFailure
  dsimp only
  rw [hsuccess]
  exact ((ClosesFor.of_eq rfl).trans hcloses).trans (closesFor_beginClosing _ _ _)

/-- **The end of a shutdown drain keeps its reason.**  On an open Core, at a time that it accepts
and with identifiers left, the Driver closes for the reason of the call, whatever the Writer
answers. -/
theorem reason_finishShutdownDrain (h : Booked ⟨r.driver, none, []⟩)
    (hlive : r.driver.core.closing = false)
    (haccepts : r.driver.core.AcceptsTime now) (hwrite : r.driver.core.nextWriteId.isSome = true)
    (hbytes : r.driver.core.nextSystemBytes.isSome = true) :
    (r.finishShutdownDrain reason now).driver.closing.map ClosingState.reason = some reason := by
  have hcoherent : Coherent none r.driver.core := h.sound.coherent
  have hopen : r.driver.closing = none := by
    cases hclosing : r.driver.closing with
    | none => rfl
    | some closing =>
      have hclosed : r.driver.core.closing = true :=
        h.sound.closing (Option.isSome_iff_exists.mpr ⟨_, hclosing⟩)
      exact not_closing hlive hclosed
  have hbegun : Booked ⟨r.beginShutdownDrain.driver, none, []⟩ := h.steps (.single .drain)
  have hcalled : Booked ⟨(r.beginShutdownDrain.callCore (.finishShutdownDrain reason now)).1.driver,
      some (r.driver.core, .finishShutdownDrain reason now),
      (r.beginShutdownDrain.callCore (.finishShutdownDrain reason now)).2⟩ := hbegun.leads
      (leads_callCore rfl)
  have hclosed : (r.driver.core.handle (.finishShutdownDrain reason now)).core.closing = true :=
    closing_finishShutdownDrain reason now
  have hreason : ∀ other barrier, .closeGeneration other barrier ∈
      (r.beginShutdownDrain.callCore (.finishShutdownDrain reason now)).2 → other = reason :=
    fun other barrier hmem => closes_finishShutdownDrain hcoherent hlive haccepts hwrite hbytes hmem
  have hannounced : ∃ a ∈ (r.beginShutdownDrain.callCore (.finishShutdownDrain reason now)).2,
      a.isClose = true := (announced_handle hcoherent hclosed).resolve_left fun h =>
        not_closing hlive h
  have hcore : (r.beginShutdownDrain.callCore (.finishShutdownDrain reason now)).1.driver.core =
      (r.driver.core.handle (.finishShutdownDrain reason now)).core := rfl
  have hstill : (r.beginShutdownDrain.callCore
      (.finishShutdownDrain reason now)).1.driver.closing = none := hopen
  unfold finishShutdownDrain
  dsimp only
  rw [finishCloseIfReady_frame]
  dsimp only
  generalize (r.beginShutdownDrain.callCore (.finishShutdownDrain reason now)).2 = actions at *
  generalize (r.beginShutdownDrain.callCore (.finishShutdownDrain reason now)).1 = r₁ at *
  obtain ⟨hcloses, hfinished⟩ := closesFor_applyActionBatch (r := r₁) hreason
  have htried : Tries false r₁
      (some (r.driver.core, .finishShutdownDrain reason now)) actions _ _ [] :=
    tries_applyActionBatch none actions
  obtain ⟨p, hlead, -⟩ := htried
  have hsame := core_applyActionBatch (r := r₁) none actions
  unfold applyBatch
  split
  · next r₂ happly =>
    rw [happly] at hcloses hfinished
    exact hcloses.reason_eq hstill (hfinished rfl hannounced)
  · next r₂ failure happly =>
    rw [happly] at hcloses hlead hsame
    have hcore₂ : r₂.driver.core = (r.driver.core.handle (.finishShutdownDrain reason now)).core :=
      hsame.trans hcore
    have hhandled : ClosesFor reason r₂.driver (r₂.handleActionFailureWithReason failure now
        (some reason)).driver := by
      have haccepted : (r.driver.core.handle (.finishShutdownDrain reason now)).core.AcceptsTime
          now :=
        acceptsTime_handle hcoherent haccepts
      refine closesFor_shutdownAfterDriverFailure (hcalled.leads hlead) ?_ fun _ => ?_
      · rw [hcore₂]
        exact haccepted
      · rw [hcore₂]
        exact hclosed
    exact (hcloses.trans hhandled).reason_eq hstill (closing_shutdownAfterDriverFailure _ _ _ _)

/-! ## Calls of `finish_shutdown_drain` -/

end Round

/-- The input is the end of a shutdown drain. -/
def Input.isFinish : Input → Bool
  | .finishShutdownDrain .. => true
  | _ => false

/-- The effect calls Core with the end of a shutdown drain. -/
def DriverEffect.finishes : DriverEffect κ → Bool
  | .called _ input => input.isFinish
  | _ => false

namespace Round

/-- What gives Core no end of a drain. -/
theorem Calls.unfinishing {r r' : Round W κ} {allowed : Input → Bool} (h : Calls allowed r r')
    (hallowed : ∀ reason now, allowed (.finishShutdownDrain reason now) = false) :
    ∃ effects, r'.effects = r.effects ++ effects ∧ ∀ effect ∈ effects, effect.finishes = false := by
  obtain ⟨effects, heq, hinputs, -⟩ := h
  refine ⟨effects, heq, fun effect hmem => ?_⟩
  cases effect with
  | called core input =>
    have hpresented : input ∈ presentedInputs effects :=
      List.mem_map.mpr ⟨(core, input), List.mem_filterMap.mpr ⟨_, hmem, rfl⟩, rfl⟩
    cases input with
    | finishShutdownDrain reason now =>
      exact absurd (hinputs _ hpresented) (Bool.eq_false_iff.mp (hallowed reason now))
    | connected _ | command _ _ | message _ _ | inboundViolation _ _ | reply _ _ _ _ _
    | writeOutcome _ _ _ _
    | shutdown _ _ _ | advanceTime _ | finalizeWriter _ => rfl
  | _ => rfl

variable [WriterIngress W]

/-- **Only `finish_shutdown_drain` ends a shutdown drain.**  So a history tells when the end of
the drain was asked for. -/
theorem unfinishing_perform (r : Round W κ) (input : DriverInput κ)
    (h : ∀ reason now, input ≠ .finishShutdownDrain reason now) :
    ∃ effects, (SessionDriver.perform r input).effects = r.effects ++ effects ∧
      ∀ effect ∈ effects, effect.finishes = false := by
  by_cases htakes : input = .takeInbound
  · subst htakes
    refine ⟨[.takenInbound r.driver.inbound.head?], rfl, fun effect hmem => ?_⟩
    rw [List.mem_singleton.mp hmem]
    rfl
  refine (Calls.perform r htakes).unfinishing fun reason now => ?_
  cases input with
  | finishShutdownDrain reason now => exact absurd rfl (h reason now)
  | acceptControl _ _ | acceptSend _ _ | acceptRequest _ _ | acceptReply _ _ _ _ | connected _
  | driveNextCommand _ | decoded _ _ _ | writeOutcome _ _ _ _ | beginShutdownDrain | shutdown _ _ _
  | advanceTime _ | setDeliveryCapacity _ _ | takeInbound | takeProtocolError | writerStopped _ =>
    rfl

/-- `finish_shutdown_drain` ends the drain once. -/
theorem finishes_finishShutdownDrain (r : Round W κ) (reason : GenerationCloseReason)
    (now : MonoTime) :
    ∃ effects, (r.finishShutdownDrain reason now).effects =
        r.effects ++ .called r.driver.core (.finishShutdownDrain reason now) :: effects ∧
      ∀ effect ∈ effects, effect.finishes = false := by
  generalize hallowed : (fun input : Input => !input.isFinish) = allowed
  have ho : Ordinary allowed := by subst hallowed; exact ⟨fun _ _ _ => rfl, fun _ => rfl⟩
  have hbatch : Calls allowed (r.beginShutdownDrain.callCore (.finishShutdownDrain reason now)).1
      (r.finishShutdownDrain reason now) :=
    (Calls.applyBatch ho _ (r.beginShutdownDrain.callCore
      (.finishShutdownDrain reason now)).2 none now
      (some reason)).trans (.finishCloseIfReady _)
  obtain ⟨effects, heq, hquiet⟩ := hbatch.unfinishing (by subst hallowed; exact fun _ _ => rfl)
  refine ⟨effects, ?_, hquiet⟩
  rw [List.append_cons]
  exact heq

end Round

/-! ## The last frames -/

/-- The frame that an effect hands to the Writer. -/
def DriverEffect.frame : DriverEffect κ → Option (WriteId × ProtocolMessage)
  | .admitted frame => some (frame.writeId, frame.message)
  | _ => none

/-- The frames that have been handed to the Writer, in order. -/
def admittedIn (past : List (DriverEffect κ)) : List (WriteId × ProtocolMessage) :=
  past.filterMap DriverEffect.frame

theorem admittedIn_append (past effects : List (DriverEffect κ)) :
    admittedIn (past ++ effects) = admittedIn past ++ admittedIn effects := List.filterMap_append

/-- **The last frames.**  Core is closing, and what has been handed to the Writer since, with what
the batch still holds, begins the frames of the last batch. -/
structure LastFrames (last : List (WriteId × ProtocolMessage)) (since : List (DriverEffect κ))
    (stage : DriverStage W κ) : Prop where
  closing : stage.driver.core.closing = true
  frames : admittedIn since ++ framesOf stage.pending <+: last

namespace LastFrames

variable {last : List (WriteId × ProtocolMessage)} {since effects : List (DriverEffect κ)}
  {stage stage' : DriverStage W κ}

/-- A step that hands out nothing and leaves no more to hand out. -/
theorem keep (h : LastFrames last since stage) (hclosing : stage'.driver.core.closing = true)
    (hsilent : admittedIn effects = [])
    (hrest : framesOf stage'.pending <+: framesOf stage.pending) :
    LastFrames last (since ++ effects) stage' := by
  refine ⟨hclosing, ?_⟩
  rw [admittedIn_append, hsilent, List.append_nil]
  exact (List.prefix_append_right_inj _ |>.mpr hrest).trans h.frames

/-- A frame goes from the batch to the Writer. -/
theorem send {w : WriteId} {message : ProtocolMessage} {p : List CoreAction}
    {d d' : SessionDriver W κ}
    {o : Option (SessionCore × Input)} (h : LastFrames last since ⟨d, o, .sendFrame w message :: p⟩)
    (hcore : d'.core = d.core) :
    LastFrames last (since ++ [.admitted ⟨w, message⟩]) ⟨d', o, p⟩ := by
  refine ⟨?_, ?_⟩
  · show d'.core.closing = true
    rw [hcore]
    exact h.closing
  · rw [admittedIn_append]
    have hframes := h.frames
    simpa [admittedIn, DriverEffect.frame, framesOf, CoreAction.frame] using hframes

/-- A call of the closing Core. -/
theorem call {d d' : SessionDriver W κ} {o o' : Option (SessionCore × Input)} {p : List CoreAction}
    (h : LastFrames last since ⟨d, o, p⟩) (hsound : Sound ⟨d, o, p⟩) {input : Input}
    (hcore : d'.core = (d.core.handle input).core) (hsilent : admittedIn effects = []) :
    LastFrames last (since ++ effects) ⟨d', o', (d.core.handle input).actions⟩ := by
  have hclosing : d.core.closing = true := h.closing
  refine h.keep ?_ hsilent ?_
  · show d'.core.closing = true
    rw [hcore]
    exact (closesOnce_handle hsound.coherent input).kept hclosing
  · show framesOf (d.core.handle input).actions <+: _
    rw [frames_handle_of_closing hsound.coherent hclosing input]
    exact List.nil_prefix

variable [WriterIngress W]

theorem step {admits : Bool} (h : LastFrames last since stage) (hsound : Sound stage)
    (hstep : DriverStep admits stage effects stage') :
    LastFrames last (since ++ effects) stage' := by
  have hdischarge (d : SessionDriver W κ) (charge : ℕ) :
      admittedIn (d.dischargeEffects charge) = [] := by
    unfold dischargeEffects
    split
    · rfl
    · rfl
  have hclose (d : SessionDriver W κ) (reason : GenerationCloseReason) (barrier : CloseBarrier) :
      admittedIn (d.closeEffects reason barrier) = [] := by
    unfold closeEffects
    split
    · rfl
    · rfl
  cases hstep with
  | call input _ => exact h.call hsound rfl rfl
  | fail _ _ _ => exact h.call hsound rfl rfl
  | present _ _ _ _ _ =>
    refine h.call hsound rfl ?_
    rw [admittedIn_append, hdischarge]
    rfl
  | send _ _ => exact h.send rfl
  | sendAgain _ _ => exact h.send rfl
  | @deliver d o message capability p _ =>
    refine h.keep h.closing ?_ (List.prefix_refl _)
    cases capability <;> rfl
  | close => exact h.keep h.closing (hclose _ _ _) (List.prefix_refl _)
  | shutDown _ _ => exact h.keep h.closing (hclose _ _ _) (List.prefix_refl _)
  | reject _ _ =>
    refine h.keep h.closing ?_ (List.prefix_refl _)
    rw [admittedIn_append, hdischarge]
    rfl
  | @answer _ _ effect returns =>
    refine h.keep h.closing ?_ (List.prefix_refl _)
    cases effect <;> first | rfl | cases returns
  | abandon _ => exact h.keep h.closing rfl List.nil_prefix
  | observe | settle _ _ | idle _ | rest _ | settleWrite _ | stopWriter _ | closeTransport _ _
  | accept _ _ _ _ _ _ | orphan _ _ | notice _ | takeInbound | drain | adjust _ _ _ =>
    exact h.keep h.closing rfl (List.prefix_refl _)

end LastFrames

/-- A step that calls Core with the end of a shutdown drain does nothing else. -/
theorem DriverStep.of_finish [WriterIngress W] {admits : Bool} {stage stage' : DriverStage W κ}
    {effects : List (DriverEffect κ)} (hstep : DriverStep admits stage effects stage')
    {core : SessionCore}
    {reason : GenerationCloseReason} {now : MonoTime}
    (hmem : .called core (.finishShutdownDrain reason now) ∈ effects) :
    effects = [.called core (.finishShutdownDrain reason now)] ∧
      stage'.driver.core = (core.handle (.finishShutdownDrain reason now)).core ∧
      stage'.pending = (core.handle (.finishShutdownDrain reason now)).actions := by
  have hquiet {effects : List (DriverEffect κ)} (hsilent :
      effects.filterMap DriverEffect.call = []) :
      .called core (.finishShutdownDrain reason now) ∉ effects := fun hmem =>
    nomatch List.filterMap_eq_nil_iff.mp hsilent _ hmem
  cases hstep with
  | call input _ =>
    obtain ⟨rfl, rfl⟩ := DriverEffect.called.inj (List.mem_singleton.mp hmem)
    exact ⟨rfl, rfl, rfl⟩
  | @present d accepted rest value now' _ _ _ _ =>
    rcases List.mem_append.mp hmem with hmem | hmem
    · exact absurd hmem (hquiet (call_dischargeEffects _ _))
    · rcases List.mem_pair.mp hmem with heq | heq
      · cases heq
      · obtain ⟨-, heq⟩ := DriverEffect.called.inj heq
        cases hkind : accepted.kind <;> (rw [hkind] at heq; cases heq)
  | reject _ _ =>
    rcases List.mem_append.mp hmem with hmem | hmem
    · exact absurd hmem (hquiet (call_dischargeEffects _ _))
    · cases List.mem_singleton.mp hmem
  | close | shutDown _ _ => exact absurd hmem (hquiet (call_closeEffects _ _ _))
  | @deliver d o message capability p _ =>
    refine absurd hmem (hquiet ?_)
    cases capability <;> rfl
  | @answer _ _ effect returns =>
    rw [← List.mem_singleton.mp hmem] at returns
    cases returns
  | fail _ _ _ | send _ _ | sendAgain _ _ | observe | settle _ _ | settleWrite _
  | closeTransport _ _
  | accept _ _ _ _ _ _ | orphan _ _ | notice _ | takeInbound => cases List.mem_singleton.mp hmem
  | idle _ | abandon _ | rest _ | stopWriter _ | drain | adjust _ _ _ => cases hmem

/-- Since every end of a shutdown drain the frames of its batch are the last. -/
def FinishedFrames (past : List (DriverEffect κ)) (stage : DriverStage W κ) : Prop :=
  ∀ a core reason now b, past = a ++ .called core (.finishShutdownDrain reason now) :: b →
    LastFrames (framesOf (core.handle (.finishShutdownDrain reason now)).actions) b stage

theorem FinishedFrames.step [WriterIngress W] {admits : Bool} {past effects : List (DriverEffect κ)}
    {stage stage' : DriverStage W κ} (h : FinishedFrames past stage) (hsound : Sound stage)
    (hstep : DriverStep admits stage effects stage') : FinishedFrames (past ++ effects) stage' := by
  intro a core reason now b hsplit
  have hnow (a' : List (DriverEffect κ)) (heffects : effects =
      a' ++ .called core (.finishShutdownDrain reason now) :: b) :
      LastFrames (framesOf (core.handle (.finishShutdownDrain reason now)).actions) b stage' := by
    have hmem : .called core (.finishShutdownDrain reason now) ∈ effects := by
      rw [heffects]
      exact List.mem_append_right _ List.mem_cons_self
    obtain ⟨hsingle, hcore, hpending⟩ := hstep.of_finish hmem
    have hb : b = [] := by
      rw [heffects, List.append_eq_singleton_iff] at hsingle
      rcases hsingle with ⟨-, hrest⟩ | ⟨-, hrest⟩
      · exact (List.cons.inj hrest).2
      · cases hrest
    refine ⟨?_, ?_⟩
    · rw [hcore]
      exact closing_finishShutdownDrain reason now
    · rw [hb, hpending]
      exact List.prefix_refl _
  rcases List.append_eq_append_iff.mp hsplit with ⟨more, -, hlast⟩ | ⟨more, hpast, hlast⟩
  · exact hnow more hlast
  · rcases List.cons_eq_append_iff.mp hlast with ⟨rfl, heffects⟩ | ⟨rest, rfl, rfl⟩
    · exact hnow [] heffects
    · exact (h a core reason now rest hpast).step hsound hstep

end Hsms
end SecsRust
