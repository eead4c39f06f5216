import SecsRust.Hsms.Generation.Driver.Deadlines

/-!
# Calls of Core

Which inputs an operation of the Driver gives to Core, and what it takes from the queue of
Primaries.  A shutdown and the deadlines that are due can come with any operation;
everything else comes with one operation alone.  `DriverInput.makes` is the table of both.

`Calls allowed` says of two Rounds, the later of which continues the earlier, that what lies
between them gives Core only inputs that are allowed and takes nothing.  It composes, so
there is one lemma for each function of the Driver, in the order in which they call one
another.  The functions that every operation may end in need only that shutdowns and
deadlines are allowed (`Calls.Ordinary`), and `Calls.perform` puts the rest of the table
together.

Two readings of it are used later.  An operation that reads nothing from the peer gives Core
no message (`Calls.perform_silent`), so Core delivers nothing in it.  And the end of a
shutdown drain is an input that one operation makes and no other.
-/

namespace SecsRust
namespace Hsms

open Std Secs2 SessionDriver WriterIngress

universe u v

variable {W : Type u} {κ : Type v}

/-- The inputs that an operation of the Driver may give to Core.  It is read off the source:
which function calls Core with what. -/
def DriverInput.makes : DriverInput κ → Input → Bool
  | _, .shutdown .. | _, .advanceTime _ => true
  | .connected _, .connected _ => true
  | .driveNextCommand _, .command .. | .driveNextCommand _, .reply .. => true
  | .decoded .., .message .. | .decoded .., .inboundViolation .. => true
  | .writeOutcome .., .writeOutcome .. => true
  | .finishShutdownDrain .., .finishShutdownDrain .. => true
  | .writerStopped _, .finalizeWriter _ => true
  | _, _ => false

/-- The effect neither calls Core nor takes a Primary. -/
def DriverEffect.plain : DriverEffect κ → Bool
  | .called .. | .takenInbound _ => false
  | _ => true

theorem plain_dischargeEffects (d : SessionDriver W κ) (charge : ℕ) :
    ∀ effect ∈ d.dischargeEffects charge, effect.plain = true := by
  intro effect hmem
  unfold dischargeEffects at hmem
  split at hmem
  · cases hmem
  · rw [List.mem_singleton.mp hmem]
    rfl

theorem plain_closeEffects (d : SessionDriver W κ) (reason : GenerationCloseReason)
    (barrier : CloseBarrier) :
    ∀ effect ∈ d.closeEffects reason barrier, effect.plain = true := by
  intro effect hmem
  unfold closeEffects at hmem
  split at hmem
  · rw [List.mem_singleton.mp hmem]
    rfl
  · cases hmem

/-- The Primary that leaves the queue. -/
def DriverEffect.took : DriverEffect κ → Option InboundPrimary
  | .takenInbound primary => primary
  | _ => none

/-- What has been taken out of the queue. -/
def takenIn (past : List (DriverEffect κ)) : List InboundPrimary := past.filterMap DriverEffect.took

theorem takenIn_append (past effects : List (DriverEffect κ)) :
    takenIn (past ++ effects) = takenIn past ++ takenIn effects := List.filterMap_append

/-- The input is a message of the peer. -/
def Input.isMessage : Input → Bool
  | .message .. => true
  | _ => false

/-- How many messages of the peer Core has been given. -/
def messagesIn (past : List (DriverEffect κ)) : ℕ := (presentedInputs past).countP Input.isMessage

theorem messagesIn_append (past effects : List (DriverEffect κ)) :
    messagesIn (past ++ effects) = messagesIn past + messagesIn effects := by
  unfold messagesIn
  rw [presentedInputs_append, List.countP_append]

/-- How many messages of the peer an operation may give to Core. -/
def DriverInput.reads : DriverInput κ → ℕ
  | .decoded .. => 1
  | _ => 0

namespace Round

variable {r r' r'' : Round W κ} {allowed : Input → Bool} {now : MonoTime}

/-- What has been done from `r` to `r'` gives Core such inputs only, and takes nothing.  It is
kept by every function of the Driver whose calls are among the allowed ones. -/
def Calls (allowed : Input → Bool) (r r' : Round W κ) : Prop :=
  ∃ effects, r'.effects = r.effects ++ effects ∧
    (∀ input ∈ presentedInputs effects, allowed input = true) ∧
    takenIn effects = []

/-- Inputs that can come with any operation.  They are the shutdowns and the deadlines that are
due. -/
structure Ordinary (allowed : Input → Bool) : Prop where
  shutdown : ∀ reason failedWriteId now, allowed (.shutdown reason failedWriteId now) = true
  advance : ∀ now, allowed (.advanceTime now) = true

namespace Calls

/-- Effects that neither call nor take. -/
theorem of_plain {effects : List (DriverEffect κ)} (heq : r'.effects = r.effects ++ effects)
    (hplain : ∀ effect ∈ effects, effect.plain = true) : Calls allowed r r' := by
  refine ⟨effects, heq, fun input hmem => ?_, List.filterMap_eq_nil_iff.mpr fun effect hmem => ?_⟩
  · obtain ⟨call, hcall, -⟩ := List.mem_map.mp hmem
    obtain ⟨effect, heffect, hsome⟩ := List.mem_filterMap.mp hcall
    have hone : effect.call = none := by
      have hquiet := hplain effect heffect
      cases effect <;> first | rfl | cases hquiet
    cases hone.symm.trans hsome
  · have hone := hplain effect hmem
    cases effect <;> first | rfl | cases hone

theorem of_eq (h : r'.effects = r.effects) : Calls allowed r r' :=
  .of_plain (h.trans (List.append_nil _).symm) fun _ hmem => absurd hmem List.not_mem_nil

theorem refl (r : Round W κ) : Calls allowed r r := of_eq rfl

theorem trans (h : Calls allowed r r') (h' : Calls allowed r' r'') : Calls allowed r r'' := by
  obtain ⟨effects, heq, hinputs, hnone⟩ := h
  obtain ⟨effects', heq', hinputs', hnone'⟩ := h'
  refine ⟨effects ++ effects', by rw [heq', heq, List.append_assoc], fun input hmem => ?_, ?_⟩
  · rw [presentedInputs_append] at hmem
    exact (List.mem_append.mp hmem).elim (hinputs input) (hinputs' input)
  · rw [takenIn_append, hnone, hnone', List.append_nil]

theorem update (r : Round W κ) (f : SessionDriver W κ → SessionDriver W κ) :
    Calls allowed r (r.update f) :=
  of_eq rfl

theorem emit (r : Round W κ) {effect : DriverEffect κ} (h : effect.plain = true) :
    Calls allowed r (r.emit effect) :=
  .of_plain rfl fun other hmem => by rwa [List.mem_singleton.mp hmem]

theorem callCore (r : Round W κ) {input : Input} (h : allowed input = true) :
    Calls allowed r (r.callCore input).1 :=
  ⟨_, rfl, fun other hmem => by rwa [List.mem_singleton.mp hmem], rfl⟩

theorem popCommand (r : Round W κ) (accepted : AcceptedCommand κ) :
    Calls allowed r (r.popCommand accepted) := by
  rw [popCommand_eq]
  exact .of_plain rfl (plain_dischargeEffects _ _)

theorem foldl {α : Type*} {f : Round W κ → α → Round W κ} (h : ∀ r x, Calls allowed r (f r x))
    (l : List α)
    (r : Round W κ) : Calls allowed r (l.foldl f r) := by
  induction l generalizing r with
  | nil => exact refl r
  | cons x l ih => exact (h r x).trans (ih _)

theorem drainAcceptedCommands (r : Round W κ) : Calls allowed r r.drainAcceptedCommands := by
  refine (foldl (fun r commandId => ?_) _ r).trans (foldl (fun r accepted => ?_) _ _)
  · unfold settleOrphan
    split
    · exact refl r
    · exact (update r _).trans (emit _ rfl)
  · exact (popCommand r accepted).trans (emit _ rfl)

theorem beginClosing (r : Round W κ) (reason : GenerationCloseReason) (barrier : CloseBarrier) :
    Calls allowed r (r.beginClosing reason barrier) := by
  rw [beginClosing_eq]
  exact .of_plain rfl (plain_closeEffects _ _ _)

theorem satisfyCloseBarrier (r : Round W κ) (writeId : WriteId) :
    Calls allowed r (r.satisfyCloseBarrier writeId) := by
  rw [satisfyCloseBarrier_eq]
  exact of_eq rfl

theorem finishCloseIfReady (r : Round W κ) : Calls allowed r r.finishCloseIfReady := by
  unfold Round.finishCloseIfReady
  split
  · split
    · exact refl r
    · exact ((emit r rfl).trans (update _ _)).trans (drainAcceptedCommands _)
  · exact refl r

theorem takeNotice (r : Round W κ) : Calls allowed r r.takeNotice := by
  unfold Round.takeNotice
  split
  · exact refl r
  · exact (update r _).trans (emit _ rfl)

variable [WriterIngress W]

theorem applyAction (r : Round W κ) (permit : Option (DataPermit W)) (action : CoreAction) :
    Calls allowed r (r.applyAction permit action).1 := by
  have hrecord (r : Round W κ) (frame : OutboundFrame) :
      Calls allowed r (r.recordAdmission frame).1 := by
    unfold Round.recordAdmission
    dsimp only
    split
    · exact emit r rfl
    · exact (emit r rfl).trans (update _ _)
  cases action with
  | deliverPrimary message capability =>
    unfold Round.applyAction
    dsimp only
    split
    · exact refl r
    · refine .of_plain rfl fun effect hmem => ?_
      obtain ⟨token, -, rfl⟩ := Option.map_eq_some_iff.mp (Option.mem_toList.mp hmem)
      rfl
  | sendFrame writeId message =>
    unfold Round.applyAction Round.sendFrame
    dsimp only
    split
    · split
      · exact update r _
      · exact (update r _).trans (hrecord _ _)
    · split
      · exact refl r
      · split
        · exact update r _
        · exact (update r _).trans (hrecord _ _)
  | sessionStateChanged state => exact emit r rfl
  | completeCommand commandId result =>
    unfold Round.applyAction Round.completeCommand
    dsimp only
    split
    · exact refl r
    · split
      · exact refl r
      · exact (update r _).trans (emit _ rfl)
  | closeGeneration reason barrier => exact beginClosing r reason barrier

/-- A batch calls nothing: all that it does to Core is done. -/
theorem applyEach (r : Round W κ) (permit : Option (DataPermit W)) (actions : List CoreAction) :
    Calls allowed r (r.applyEach permit actions).1 := by
  induction actions generalizing r permit with
  | nil => exact refl r
  | cons action actions ih =>
    have hone : Calls allowed r _ := applyAction r permit action
    unfold Round.applyEach
    split
    · next happly =>
      rw [happly] at hone
      exact hone
    · next r₁ permit₁ happly =>
      rw [happly] at hone
      exact hone.trans (ih r₁ permit₁)

theorem applyActionBatch (r : Round W κ) (actions : List CoreAction)
    (permit : Option (DataPermit W)) :
    Calls allowed r (r.applyActionBatch actions permit).1 := by
  have heach : Calls allowed r _ := applyEach r permit actions
  unfold Round.applyActionBatch
  split
  · next happly =>
    rw [happly] at heach
    exact heach
  · next happly =>
    rw [happly] at heach
    split
    · exact heach.trans (update _ _)
    · exact heach.trans (update _ _)

variable (ho : Ordinary allowed)
include ho

theorem shutdownAfterDriverFailure (r : Round W κ) (reason : GenerationCloseReason)
    (failedWriteId : Option WriteId) (now : MonoTime) :
    Calls allowed r (r.shutdownAfterDriverFailure reason failedWriteId now) := by
  have hbatch := (callCore r (ho.shutdown reason failedWriteId now)).trans
    (applyActionBatch _ (r.callCore (.shutdown reason failedWriteId now)).2 none)
  unfold Round.shutdownAfterDriverFailure
  dsimp only
  refine Calls.trans ?_ (beginClosing _ _ _)
  split
  · exact hbatch.trans (beginClosing _ _ _)
  · exact hbatch

theorem applyBatch (r : Round W κ) (actions : List CoreAction) (permit : Option (DataPermit W))
    (now : MonoTime) (firstReason : Option GenerationCloseReason) :
    Calls allowed r (r.applyBatch actions permit now firstReason) := by
  have hbatch : Calls allowed r _ := applyActionBatch r actions permit
  unfold Round.applyBatch
  split
  · next happly =>
    rw [happly] at hbatch
    exact hbatch
  · next happly =>
    rw [happly] at hbatch
    exact hbatch.trans (shutdownAfterDriverFailure ho _ _ _ now)

/-- A call of Core with its batch. -/
theorem apply (r : Round W κ) {input : Input} (h : allowed input = true) (now : MonoTime) :
    Calls allowed r ((r.callCore input).1.applyActions (r.callCore input).2 now) :=
  ((callCore r h).trans (applyBatch ho _ _ none now none)).trans (finishCloseIfReady _)

theorem onShutdown (r : Round W κ) (reason : GenerationCloseReason) (failedWriteId : Option WriteId)
    (now : MonoTime) : Calls allowed r (r.onShutdown reason failedWriteId now) :=
  (((callCore r (ho.shutdown reason failedWriteId now)).trans
    (applyBatch ho _ _ none now none)).trans (beginClosing _ _ _)).trans (finishCloseIfReady _)

theorem processDueDeadlines (r : Round W κ) (now : MonoTime) :
    Calls allowed r (r.processDueDeadlines now) := by
  unfold Round.processDueDeadlines
  split
  · exact apply ho r (ho.advance now) now
  · exact refl r

theorem driveCommand (r : Round W κ) (accepted : AcceptedCommand κ) (now : MonoTime)
    (h : ∀ c, allowed (accepted.kind.coreInput c now) = true) :
    Calls allowed r (r.driveCommand accepted now) := by
  have hpresent (r : Round W κ) (permit : Option (DataPermit W)) :
      Calls allowed r (r.presentCommand accepted permit now) := by
    unfold presentCommand
    dsimp only
    split
    · split
      · exact ((update r _).trans (emit _ rfl)).trans (onShutdown ho _ .runtimeInvariant none now)
      · exact (emit r rfl).trans (onShutdown ho _ .runtimeInvariant none now)
    · exact ((((update r _).trans (emit _ rfl)).trans (callCore _ (h _))).trans
        (applyBatch ho _ _ permit now none)).trans (finishCloseIfReady _)
  unfold Round.driveCommand
  split
  · exact emit r rfl
  · split
    · split
      · exact (update r _).trans (hpresent _ _)
      · exact (((update r _).trans (emit _ rfl)).trans
          (shutdownAfterDriverFailure ho _ _ _ now)).trans
          (finishCloseIfReady _)
      · exact (update r _).trans (emit _ rfl)
    · exact hpresent r none

theorem onViolation (r : Round W κ) (violation : InboundViolation) (context : MessageContext)
    (kind : InboundViolationKind) (source : Option DecodeError)
    (rawHeader : Option (Vector UInt8 10))
    (now : MonoTime) (h : allowed (.inboundViolation violation now) = true) :
    Calls allowed r (r.onViolation violation context kind source rawHeader now) := by
  unfold Round.onViolation
  split
  · exact (onShutdown ho r _ none now).trans (emit _ rfl)
  · have happly := apply ho (r.update fun driver => { driver with
      protocolErrors := driver.protocolErrors ++ [⟨(rawHeader.map fun header =>
        ⟨r.driver.generation, header⟩).getD context, kind, source⟩] }) h now
    exact ((update r _).trans happly).trans (emit _ rfl)

/-- What is decoded and is no message. -/
theorem onDecodeStep (r : Round W κ) {step : HsmsSsDecodeStep}
    (hstep : ∀ message, step ≠ .message message)
    (rawHeader : Option (Vector UInt8 10)) (now : MonoTime)
    (h : ∀ violation now, allowed (.inboundViolation violation now) = true) :
    Calls allowed r (r.onDecodeStep step rawHeader now) := by
  have hdue := processDueDeadlines ho r now
  unfold Round.onDecodeStep
  split
  · next message => exact absurd rfl (hstep message)
  · dsimp only
    split
    · exact hdue.trans (emit _ rfl)
    · split
      · exact hdue.trans (onViolation ho _ _ _ _ _ _ _ (h _ _))
      · exact hdue.trans (onViolation ho _ _ _ _ _ _ _ (h _ _))
      · exact (hdue.trans (onShutdown ho _ .runtimeInvariant none now)).trans (emit _ rfl)

/-- What follows a message, once Core has it. -/
theorem received (r : Round W κ) (actions : List CoreAction) (now : MonoTime) :
    Calls allowed r ((r.applyActions actions now).takeNotice.emit (.returned true)) :=
  (((applyBatch ho r actions none now none).trans (finishCloseIfReady _)).trans
    (takeNotice _)).trans
    (emit _ rfl)

theorem onMessage (r : Round W κ) (message : ProtocolMessage) (now : MonoTime)
    (h : allowed (.message message now) = true) : Calls allowed r (r.onMessage message now) := by
  have hdue := processDueDeadlines ho r now
  unfold Round.onMessage
  dsimp only
  split
  · exact hdue.trans (emit _ rfl)
  · exact (hdue.trans (callCore _ h)).trans (received ho _ _ now)

theorem onWriteOutcomeAt (r : Round W κ) (writeId : WriteId) (outcome : WriteOutcome)
    (occurredAt now : MonoTime)
    (h : allowed (.writeOutcome writeId outcome occurredAt now) = true) :
    Calls allowed r (r.onWriteOutcomeAt writeId outcome occurredAt now) := by
  have hfirst : Calls allowed r
      (if outcome = .committed then r.processDueDeadlines now else r) := by
    split
    · exact processDueDeadlines ho r now
    · exact refl r
  unfold Round.onWriteOutcomeAt
  dsimp only
  generalize (if outcome = .committed then r.processDueDeadlines now else r) = r₁ at hfirst
  have hbatch := (callCore r₁ h).trans
    (applyBatch ho _ (r₁.callCore (.writeOutcome writeId outcome occurredAt now)).2 none now none)
  exact ((((hfirst.trans hbatch).trans (update _ _)).trans (emit _ rfl)).trans
    (satisfyCloseBarrier _ writeId)).trans (finishCloseIfReady _)

theorem onWriterStopped (r : Round W κ) (now : MonoTime)
    (h : allowed (.finalizeWriter now) = true) :
    Calls allowed r (r.onWriterStopped now) := by
  have hfirst : Calls allowed r
      (if r.driver.closing.isNone then r.onShutdown .runtimeInvariant none now else r) := by
    split
    · exact onShutdown ho r _ none now
    · exact refl r
  unfold Round.onWriterStopped
  dsimp only
  generalize (if r.driver.closing.isNone then r.onShutdown .runtimeInvariant none now
    else r) = r₁ at hfirst
  have hbatch := (callCore r₁ h).trans
    (applyBatch ho _ (r₁.callCore (.finalizeWriter now)).2 none now none)
  exact (((hfirst.trans hbatch).trans (update _ _)).trans (finishCloseIfReady _)).trans
    (drainAcceptedCommands _)

theorem finishShutdownDrain (r : Round W κ) (reason : GenerationCloseReason) (now : MonoTime)
    (h : allowed (.finishShutdownDrain reason now) = true) :
    Calls allowed r (r.finishShutdownDrain reason now) :=
  (((update r _).trans (callCore _ h)).trans (applyBatch ho _ _ none now (some reason))).trans
    (finishCloseIfReady _)

omit ho in
/-- **An operation gives Core its own inputs only**, and only `take_inbound` takes.  One case for
each operation, from the lemma about the function that it calls. -/
theorem perform (r : Round W κ) {input : DriverInput κ} (h : input ≠ .takeInbound) :
    Calls input.makes r (SessionDriver.perform r input) := by
  have ho : Ordinary input.makes := ⟨fun _ _ _ => by cases input <;> rfl, fun _ => by
    cases input <;> rfl⟩
  have hdata (allowed : Input → Bool) (message : PrimaryMessage) (completion : κ)
      (replyExpected : Bool) :
      Calls allowed r (r.tryAcceptData message completion replyExpected) := by
    unfold tryAcceptData
    repeat' split
    all_goals exact emit r rfl
  cases input with
  | acceptControl intent completion =>
    show Calls _ r (r.tryAcceptControl intent completion)
    unfold tryAcceptControl
    repeat' split
    all_goals exact emit r rfl
  | acceptSend message completion => exact hdata _ message completion false
  | acceptRequest message completion => exact hdata _ message completion true
  | acceptReply intent token body completion =>
    show Calls _ r (r.tryAcceptReply intent token body completion)
    unfold tryAcceptReply
    dsimp only
    repeat' split
    all_goals exact emit r rfl
  | connected now =>
    show Calls _ r (r.onConnected now)
    unfold onConnected
    split
    · exact emit r rfl
    · exact (apply ho r rfl now).trans (emit _ rfl)
  | driveNextCommand now =>
    show Calls _ r (r.driveNextCommand now)
    have hdue := processDueDeadlines ho r now
    unfold driveNextCommand
    dsimp only
    split
    · exact hdue.trans (emit _ rfl)
    · split
      · exact hdue.trans (emit _ rfl)
      · next accepted _ _ =>
        have hkind (c : CommandId) : (DriverInput.driveNextCommand (κ := κ) now).makes
            (accepted.kind.coreInput c now) = true := by cases accepted.kind <;> rfl
        exact ((hdue.trans (popCommand _ accepted)).trans
          (driveCommand ho _ accepted now hkind)).trans
          (emit _ rfl)
  | decoded step rawHeader now =>
    by_cases hmessage : ∃ message, step = .message message
    · obtain ⟨message, rfl⟩ := hmessage
      exact onMessage ho r message now rfl
    · exact onDecodeStep ho r (fun message heq => hmessage ⟨message, heq⟩) rawHeader now fun _ _ =>
        rfl
  | writeOutcome writeId outcome occurredAt now =>
    exact onWriteOutcomeAt ho r writeId outcome occurredAt now rfl
  | beginShutdownDrain => exact update r _
  | finishShutdownDrain reason now => exact finishShutdownDrain ho r reason now rfl
  | shutdown reason failedWriteId now => exact onShutdown ho r reason failedWriteId now
  | advanceTime now =>
    show Calls _ r (r.advanceTime now)
    unfold advanceTime
    split
    · exact emit r rfl
    · exact (apply ho r (ho.advance now) now).trans (emit _ rfl)
  | setDeliveryCapacity primaries errors => exact update r _
  | takeInbound => exact absurd rfl h
  | takeProtocolError => exact (update r _).trans (emit _ rfl)
  | writerStopped now => exact onWriterStopped ho r now rfl

end Calls

/-! ## Messages -/

/-- Inputs that are no message. -/
theorem Calls.no_message (h : Calls allowed r r')
    (hallowed : ∀ message now, allowed (.message message now) = false) :
    ∃ effects, r'.effects = r.effects ++ effects ∧
      messagesIn effects = 0 ∧ takenIn effects = [] := by
  obtain ⟨effects, heq, hinputs, hnone⟩ := h
  refine ⟨effects, heq, List.countP_eq_zero.mpr fun input hmem hmessage => ?_, hnone⟩
  cases input with
  | message message now =>
    exact absurd (hinputs _ hmem) (Bool.eq_false_iff.mp (hallowed message now))
  | connected _ | command _ _ | inboundViolation _ _ | reply _ _ _ _ _ | writeOutcome _ _ _ _
  | shutdown _ _ _
  | finishShutdownDrain _ _ | advanceTime _ | finalizeWriter _ => cases hmessage

/-- All inputs but messages. -/
def Silent (input : Input) : Bool := !input.isMessage

theorem ordinary_silent : Ordinary Silent := ⟨fun _ _ _ => rfl, fun _ => rfl⟩

variable [WriterIngress W]

/-- An operation that reads nothing. -/
theorem Calls.perform_silent (r : Round W κ) {input : DriverInput κ} (htakes : input ≠ .takeInbound)
    (hreads : input.reads = 0) :
    ∃ effects, (SessionDriver.perform r input).effects = r.effects ++ effects ∧
      messagesIn effects = 0 ∧ takenIn effects = [] := by
  refine (Calls.perform r htakes).no_message fun message now => ?_
  cases input with
  | decoded _ _ _ => cases hreads
  | acceptControl _ _ | acceptSend _ _ | acceptRequest _ _ | acceptReply _ _ _ _ | connected _
  | driveNextCommand _ | writeOutcome _ _ _ _ | beginShutdownDrain | finishShutdownDrain _ _
  | shutdown _ _ _
  | advanceTime _ | setDeliveryCapacity _ _ | takeInbound | takeProtocolError
  | writerStopped _ => rfl

end Round

end Hsms
end SecsRust
