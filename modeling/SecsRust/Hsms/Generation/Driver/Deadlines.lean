import SecsRust.Hsms.Core.Session.Timed
import SecsRust.Hsms.Core.Session.Timing
import SecsRust.Hsms.Generation.Driver.Stop

/-!
# Deadlines before input

Core expires nothing when it takes a message or a command.  A Secondary that comes after T3
would be taken by a Core whose timer has not been looked at.  The Driver looks first: every
entry point for ordinary input calls `process_due_deadlines`, and one call of it leaves
nothing due (`Round.rests_processDueDeadlines`).

## From the expiry to the input

Between that call and the input the Driver does other things, and any of them might call
Core.  What it does call is a shutdown at most (`Inert`), so the input finds Core as the
expiry has left it: nothing is due by the time of the input, and Core is open unless the
input is the outcome of a write.  This is `Punctual`, and `punctual_perform` shows it of
every entry point, one after the other.

## From the input to the timers

That nothing is due says something about the peer only if the deadlines of Core are what
they should be. `Recorded` carries over a run of the Driver what Core keeps about its own
timers (`Timed`, `Tenured`): a running timer was started by the commit of its request, at
the time that the outcome gives.  For this each step of the Driver is shown to leave Core
alone or to call it once (`DriverStep.coreStep`), so that a run of the Driver contains a run
of Core.

Together they say that no answer is taken late: T6, T3 and T7 have taken effect before a
message that comes at their deadline (`expiry_precedes_input`).
-/

namespace SecsRust
namespace Hsms

open Std Secs2 SessionDriver

universe u v

/-- The inputs that wait for the due deadlines: what the application and the peer send, and commits.
-/
def Input.isOrdinary : Input → Bool
  | .command .. | .reply .. | .message .. | .inboundViolation .. => true
  | .writeOutcome _ .committed _ _ => true
  | _ => false

/-- The input reports a write. -/
def Input.isOutcome : Input → Bool
  | .writeOutcome .. => true
  | _ => false

/-- The effect presents ordinary input to Core. -/
def DriverEffect.presents {κ : Type v} : DriverEffect κ → Bool
  | .called _ input => input.isOrdinary
  | _ => false

variable {W : Type u} {κ : Type v}

/-- A round of time leaves nothing due. -/
theorem SessionCore.rests_advanceTime {core : SessionCore} (hc : Coherent none core)
    (now : MonoTime) : (core.handle (.advanceTime now)).core.Rests now := by
  show (core.advanceTime now).core.Rests now
  unfold SessionCore.advanceTime
  rcases (Turn.start core).acceptTime_cases now with ⟨-, heq⟩ | ⟨-, heq⟩
  · rw [heq]
    exact .of_closing (Turn.endGeneration_closing _ _)
  · rw [heq]
    exact Turn.expireDeadlines_rests (hc.observe rfl) now

/-! ## Where Core and the Driver close together -/

/-- A Core that is closing has closed its Driver, or the batch that is being applied is about to. -/
def DriverStage.Follows (stage : DriverStage W κ) : Prop :=
  stage.driver.core.closing = true → stage.driver.closing.isSome = true ∨
    (∃ a ∈ stage.pending, a.isClose = true) ∨
    ∃ core input, stage.origin = some (core, input) ∧ input.isTerminal = true

section

variable {d d' : SessionDriver W κ} {origin : Option (SessionCore × Input)}
  {pending : List CoreAction}

theorem DriverStage.Follows.keep (h : DriverStage.Follows ⟨d, origin, pending⟩)
    (hcore : d'.core.closing = d.core.closing) (hclosing : d.closing.isSome = true →
      d'.closing.isSome = true)
    {rest : List CoreAction} (hrest : ∀ a ∈ pending, a.isClose = true → a ∈ rest) :
    DriverStage.Follows ⟨d', origin, rest⟩ := by
  intro hclosed
  rcases h (hcore.symm.trans hclosed) with hdriver | ⟨a, ha, hclose⟩ | hterminal
  · exact .inl (hclosing hdriver)
  · exact .inr (.inl ⟨a, hrest a ha hclose, hclose⟩)
  · exact .inr (.inr hterminal)

/-- A call of Core by a Driver at rest. -/
theorem DriverStage.Follows.call (h : DriverStage.Follows ⟨d, none, []⟩)
    (hcoherent : Coherent none d.core) (hcore : d'.core = d.core)
    (hclosing : d.closing.isSome = true → d'.closing.isSome = true) (input : Input) :
    DriverStage.Follows ⟨d'.afterCall input, some (d.core, input),
      (d.core.handle input).actions⟩ := by
  intro hclosed
  have hafter : (d.core.handle input).core.closing = true := by rw [← hcore]; exact hclosed
  rcases announced_handle hcoherent hafter with hbefore | hannounced
  · rcases h hbefore with hdriver | ⟨a, ha, -⟩ | ⟨_, _, horigin, -⟩
    · exact .inl (hclosing hdriver)
    · cases ha
    · cases horigin
  · exact .inr (.inl hannounced)

theorem DriverStage.Follows.of_closing (h : d.closing.isSome = true) :
    DriverStage.Follows ⟨d, origin, pending⟩ := fun _ => .inl h

theorem closeWith_isSome (d : SessionDriver W κ) (reason : GenerationCloseReason)
    (barrier : CloseBarrier) :
    (d.closeWith reason barrier).closing.isSome = true := by
  unfold closeWith
  dsimp only
  split
  · rfl
  · rfl

variable [WriterIngress W]

theorem DriverStage.Follows.step {admits : Bool} {stage stage' : DriverStage W κ}
    {effects : List (DriverEffect κ)} (h : stage.Follows) (hsound : Sound stage)
    (hstep : DriverStep admits stage effects stage') : stage'.Follows := by
  have htail {action : CoreAction} {rest : List CoreAction} (hopen : action.isClose = false) :
      ∀ a ∈ action :: rest, a.isClose = true → a ∈ rest := by
    intro a ha hclose
    refine (List.mem_cons.mp ha).resolve_left ?_
    rintro rfl
    cases hopen.symm.trans hclose
  cases hstep with
  | call input _ => exact h.call hsound.coherent rfl id input
  | present now _ _ _ _ => exact h.call hsound.coherent rfl id _
  | fail _ _ _ => exact fun _ => .inr (.inr ⟨_, _, rfl, rfl⟩)
  | close => exact .of_closing (closeWith_isSome _ _ _)
  | shutDown _ _ => exact .of_closing (closeWith_isSome _ _ _)
  | abandon terminal => exact fun _ => .inr (.inr ⟨_, _, rfl, terminal⟩)
  | rest settled =>
    intro hclosed
    rcases h hclosed with hdriver | ⟨a, ha, -⟩ | ⟨_, _, horigin, hterminal⟩
    · exact .inl hdriver
    · cases ha
    · obtain ⟨-, rfl⟩ := Prod.mk.inj (Option.some.inj horigin)
      exact .inl (settled hterminal)
  | @settleWrite d _ writeId =>
    have hclosing : d.closing.isSome = true → (d.afterOutcome writeId).closing.isSome = true := by
      unfold afterOutcome
      rw [Option.isSome_map]
      exact id
    have hcore : (d.afterOutcome writeId).core.closing = d.core.closing := rfl
    exact h.keep hcore hclosing fun _ ha _ => ha
  | @stopWriter d _ _ _ =>
    have hclosing : d.closing.isSome = true → d.afterWriter.closing.isSome = true := by
      unfold afterWriter
      rw [Option.isSome_map]
      exact id
    have hcore : d.afterWriter.core.closing = d.core.closing := rfl
    exact h.keep hcore hclosing fun _ ha _ => ha
  | deliver _ | send _ _ | sendAgain _ _ | observe | settle _ _ => exact h.keep rfl id (htail rfl)
  | orphan _ _ | notice _ | idle _ | closeTransport _ _ | accept _ _ _ _ _ _ | reject _ _ | answer _
  | takeInbound | drain | adjust _ _ _ => exact h.keep rfl id fun _ ha _ => ha

end

namespace Round

variable {r r' r'' : Round W κ} {now : MonoTime}

/-! ## Operations that present no input -/

/-- What has been done from `r` to `r'` presents no ordinary input to Core. -/
def Inert (r r' : Round W κ) : Prop :=
  ∀ effect ∈ r'.effects, effect.presents = true → effect ∈ r.effects

namespace Inert

theorem refl (r : Round W κ) : Inert r r := fun _ h _ => h

theorem trans (h : Inert r r') (h' : Inert r' r'') : Inert r r'' :=
  fun effect hmem hpresents => h effect (h' effect hmem hpresents) hpresents

theorem of_append {effects : List (DriverEffect κ)} (heq : r'.effects = r.effects ++ effects)
    (hquiet : ∀ effect ∈ effects, effect.presents = false) : Inert r r' := by
  intro effect hmem hpresents
  rw [heq] at hmem
  refine (List.mem_append.mp hmem).resolve_right fun hnew => ?_
  cases (hquiet effect hnew).symm.trans hpresents

theorem update (r : Round W κ) (f : SessionDriver W κ → SessionDriver W κ) : Inert r (r.update f) :=
  fun _ h _ => h

theorem emit (r : Round W κ) {effect : DriverEffect κ} (h : effect.presents = false) :
    Inert r (r.emit effect) := .of_append rfl fun other hmem => by rwa [List.mem_singleton.mp hmem]

theorem foldl {α : Type*} {f : Round W κ → α → Round W κ} (h : ∀ r x, Inert r (f r x)) (l : List α)
    (r : Round W κ) : Inert r (l.foldl f r) := by
  induction l generalizing r with
  | nil => exact refl r
  | cons x l ih => exact (h r x).trans (ih _)

theorem popCommand (r : Round W κ) (accepted : AcceptedCommand κ) :
    Inert r (r.popCommand accepted) := by
  rw [popCommand_eq]
  refine .of_append rfl fun effect hmem => ?_
  unfold dischargeEffects at hmem
  split at hmem
  · cases hmem
  · rw [List.mem_singleton.mp hmem]
    rfl

theorem rejectCommand (r : Round W κ) (accepted : AcceptedCommand κ) (error : OperationError) :
    Inert r (r.rejectCommand accepted error) := emit r rfl

theorem drainAcceptedCommands (r : Round W κ) : Inert r r.drainAcceptedCommands := by
  refine (foldl (fun r commandId => ?_) _ r).trans (foldl (fun r accepted => ?_) _ _)
  · unfold settleOrphan
    split
    · exact refl r
    · exact (update r _).trans (emit _ rfl)
  · exact (popCommand r accepted).trans (rejectCommand _ accepted _)

theorem beginClosing (r : Round W κ) (reason : GenerationCloseReason) (barrier : CloseBarrier) :
    Inert r (r.beginClosing reason barrier) := by
  rw [beginClosing_eq]
  refine .of_append rfl fun effect hmem => ?_
  unfold closeEffects at hmem
  split at hmem
  · rw [List.mem_singleton.mp hmem]
    rfl
  · cases hmem

theorem satisfyCloseBarrier (r : Round W κ) (writeId : WriteId) :
    Inert r (r.satisfyCloseBarrier writeId) := by
  rw [satisfyCloseBarrier_eq]
  exact fun _ h _ => h

theorem finishCloseIfReady (r : Round W κ) : Inert r r.finishCloseIfReady := by
  unfold Round.finishCloseIfReady
  split
  · split
    · exact refl r
    · exact ((emit r rfl).trans (update _ _)).trans (drainAcceptedCommands _)
  · exact refl r

theorem callCore (r : Round W κ) {input : Input} (h : input.isOrdinary = false) :
    Inert r (r.callCore input).1 :=
  (emit r (show (DriverEffect.called r.driver.core input).presents = false from h)).trans
  (update _ _)

theorem recordAdmission (r : Round W κ) (frame : OutboundFrame) :
    Inert r (r.recordAdmission frame).1 := by
  unfold Round.recordAdmission
  dsimp only
  split
  · exact emit r rfl
  · exact (emit r rfl).trans (update _ _)

variable [WriterIngress W]

theorem sendFrame (r : Round W κ) (permit : Option (WriterIngress.DataPermit W))
    (frame : OutboundFrame) :
    Inert r (r.sendFrame permit frame).1 := by
  unfold Round.sendFrame
  split
  · split
    · exact update r _
    · exact (update r _).trans (recordAdmission _ frame)
  · split
    · exact refl r
    · split
      · exact update r _
      · exact (update r _).trans (recordAdmission _ frame)

theorem applyAction (r : Round W κ) (permit : Option (WriterIngress.DataPermit W))
    (action : CoreAction) :
    Inert r (r.applyAction permit action).1 := by
  cases action with
  | deliverPrimary message capability =>
    unfold Round.applyAction
    dsimp only
    split
    · exact refl r
    · refine .of_append rfl fun effect hmem => ?_
      obtain ⟨token, -, rfl⟩ := Option.map_eq_some_iff.mp (Option.mem_toList.mp hmem)
      rfl
  | sendFrame writeId message => exact sendFrame r permit _
  | sessionStateChanged state => exact emit r rfl
  | completeCommand commandId result =>
    unfold Round.applyAction Round.completeCommand
    dsimp only
    split
    · exact refl r
    · split
      · exact refl r
      · exact (update r _).trans (emit _ rfl)
  | closeGeneration reason barrier => exact beginClosing r reason barrier

theorem applyEach (r : Round W κ) (permit : Option (WriterIngress.DataPermit W))
    (actions : List CoreAction) : Inert r (r.applyEach permit actions).1 := by
  induction actions generalizing r permit with
  | nil => exact refl r
  | cons action actions ih =>
    have hone := applyAction r permit action
    unfold Round.applyEach
    split
    · next happly =>
      rw [happly] at hone
      exact hone
    · next r₁ permit₁ happly =>
      rw [happly] at hone
      exact hone.trans (ih r₁ permit₁)

theorem applyActionBatch (r : Round W κ) (actions : List CoreAction)
    (permit : Option (WriterIngress.DataPermit W)) :
    Inert r (r.applyActionBatch actions permit).1 := by
  have heach := applyEach r permit actions
  unfold Round.applyActionBatch
  split
  · next happly =>
    rw [happly] at heach
    exact heach
  · next happly =>
    rw [happly] at heach
    split
    · exact heach.trans (update _ _)
    · exact heach.trans (update _ _)

theorem shutdownAfterDriverFailure (r : Round W κ) (reason : GenerationCloseReason)
    (failedWriteId : Option WriteId) (now : MonoTime) :
    Inert r (r.shutdownAfterDriverFailure reason failedWriteId now) := by
  unfold Round.shutdownAfterDriverFailure
  dsimp only
  refine Inert.trans ?_ (beginClosing _ _ _)
  have hbatch := (callCore r
      (show (Input.shutdown reason failedWriteId now).isOrdinary = false from rfl)).trans
    (applyActionBatch _ (r.callCore (.shutdown reason failedWriteId now)).2 none)
  split
  · exact hbatch.trans (beginClosing _ _ _)
  · exact hbatch

theorem applyBatch (r : Round W κ) (actions : List CoreAction)
    (permit : Option (WriterIngress.DataPermit W)) (now : MonoTime)
    (firstReason : Option GenerationCloseReason) :
    Inert r (r.applyBatch actions permit now firstReason) := by
  have hbatch := applyActionBatch r actions permit
  unfold Round.applyBatch
  split
  · next happly =>
    rw [happly] at hbatch
    exact hbatch
  · next happly =>
    rw [happly] at hbatch
    exact hbatch.trans (shutdownAfterDriverFailure _ _ _ now)

theorem applyActions (r : Round W κ) (actions : List CoreAction) (now : MonoTime) :
    Inert r (r.applyActions actions now) :=
      (applyBatch r actions none now none).trans (finishCloseIfReady _)

theorem onShutdown (r : Round W κ) (reason : GenerationCloseReason) (failedWriteId : Option WriteId)
    (now : MonoTime) : Inert r (r.onShutdown reason failedWriteId now) :=
  (((callCore r (show (Input.shutdown reason failedWriteId now).isOrdinary = false from rfl)).trans
    (applyBatch _ _ none now none)).trans (beginClosing _ _ _)).trans (finishCloseIfReady _)

theorem failRuntimeInvariant (r : Round W κ) (now : MonoTime) :
    Inert r (r.failRuntimeInvariant now) :=
  onShutdown r .runtimeInvariant none now

theorem processDueDeadlines (r : Round W κ) (now : MonoTime) :
    Inert r (r.processDueDeadlines now) := by
  unfold Round.processDueDeadlines
  split
  · exact (callCore r (show (Input.advanceTime now).isOrdinary = false from rfl)).trans
      (applyActions _ _ now)
  · exact refl r

omit [WriterIngress W] in
theorem takeNotice (r : Round W κ) : Inert r r.takeNotice := by
  unfold Round.takeNotice
  split
  · exact refl r
  · exact (update r _).trans (emit _ rfl)

end Inert

/-! ## What `process_due_deadlines` leaves -/

/-- What every Driver at rest keeps about its close.  Between two calls a close is either waiting
for its barrier or finished. -/
structure Settled (driver : SessionDriver W κ) : Prop where
  sound : Sound ⟨driver, none, []⟩
  follows : DriverStage.Follows ⟨driver, none, []⟩

/-- A Driver at rest that is open has an open Core. -/
theorem Settled.live {driver : SessionDriver W κ} (h : Settled driver)
    (hopen : ¬ driver.closing.isSome = true) :
    driver.core.closing = false := by
  refine Bool.eq_false_of_not_eq_true fun hclosing => ?_
  rcases h.follows hclosing with hclosed | ⟨a, ha, -⟩ | ⟨_, _, horigin, -⟩
  · exact hopen hclosed
  · cases ha
  · cases horigin

variable [WriterIngress W]

theorem Performs.settled {admits : Bool} (h : Performs admits r r') (hsettled : Settled r.driver) :
    Settled r'.driver := by
  obtain ⟨effects, -, hsteps⟩ := h
  obtain ⟨hsound, hfollows⟩ := hsteps.preserves
    (I := fun stage => Sound stage ∧ stage.Follows)
    (fun _ _ _ hI hstep => ⟨hI.1.step hstep, hI.2.step hI.1 hstep⟩) ⟨hsettled.sound,
      hsettled.follows⟩
  exact ⟨hsound, hfollows⟩

/-- **Nothing is due once `process_due_deadlines` has run.**  It is the theorem about
`expire_deadlines` of Core, carried over the batch that follows. -/
theorem rests_processDueDeadlines (h : Settled r.driver) (now : MonoTime) :
    (r.processDueDeadlines now).driver.core.Rests now := by
  unfold processDueDeadlines
  split
  · dsimp only
    unfold applyActions
    rw [core_finishCloseIfReady]
    have hrests := SessionCore.rests_advanceTime h.sound.coherent now
    rcases core_applyBatch (r := (r.callCore (.advanceTime now)).1) none
      (r.callCore (.advanceTime now)).2 now none with hsame | ⟨reason, failed, hshut⟩
    · unfold applyActionsWithoutFinishingClose
      rw [hsame]
      exact hrests
    · unfold applyActionsWithoutFinishingClose
      rw [hshut]
      exact .of_closing (SessionCore.terminal_closes (h.sound.coherent.handle _) rfl).2
  · next hidle =>
    rw [Bool.and_eq_true, not_and_or] at hidle
    rcases hidle with hclosing | hdue
    · refine .of_closing (h.sound.closing ?_)
      rwa [Option.isNone_iff_eq_none, ← Option.not_isSome_iff_eq_none, not_not] at hclosing
    · exact SessionCore.any_due_eq_false_iff.mp (Bool.eq_false_of_not_eq_true hdue)

/-! ## Every presentation is punctual -/

/-- Whatever ordinary input has been presented to Core, nothing was due by its time, and Core was
open unless the input reports a write. -/
def Punctual (r : Round W κ) : Prop :=
  ∀ core input, .called core input ∈ r.effects → input.isOrdinary = true →
    core.Rests input.now ∧ (input.isOutcome = false → core.closing = false)

omit [WriterIngress W] in
theorem Inert.punctual (h : Inert r r') (hr : r.Punctual) : r'.Punctual :=
  fun core input hmem hordinary => hr core input (h _ hmem hordinary) hordinary

omit [WriterIngress W] in
theorem punctual_start (driver : SessionDriver W κ) : (start driver).Punctual :=
  fun _ _ hmem => (nomatch hmem)

omit [WriterIngress W] in
theorem Punctual.callCore (h : r.Punctual) {input : Input} (hrests : r.driver.core.Rests input.now)
    (hlive : input.isOutcome = false → r.driver.core.closing = false) :
    (r.callCore input).1.Punctual := by
  intro core other hmem hordinary
  rcases List.mem_append.mp hmem with hmem | hmem
  · exact h core other hmem hordinary
  · obtain ⟨rfl, rfl⟩ := DriverEffect.called.inj (List.mem_singleton.mp hmem)
    exact ⟨hrests, hlive⟩

theorem punctual_onMessage (hr : r.Punctual) (h : Settled r.driver) (message : ProtocolMessage)
    (now : MonoTime) : (r.onMessage message now).Punctual := by
  have hdue := (Inert.processDueDeadlines r now).punctual hr
  have hrests := rests_processDueDeadlines h now
  have hperforms : Performs false r (r.processDueDeadlines now) := performs_processDueDeadlines now
  have hsettled := hperforms.settled h
  unfold onMessage
  dsimp only
  split
  · exact (Inert.emit _ rfl).punctual hdue
  · next hopen =>
    have hcall : ((r.processDueDeadlines now).callCore (.message message now)).1.Punctual :=
      hdue.callCore hrests fun _ => hsettled.live hopen
    exact (((Inert.applyActions _ _ now).trans (Inert.takeNotice _)).trans
      (Inert.emit _ rfl)).punctual
      hcall

theorem punctual_onViolation (hr : r.Punctual) (hrests : r.driver.core.Rests now)
    (hlive : r.driver.core.closing = false) (violation : InboundViolation)
    (context : MessageContext)
    (kind : InboundViolationKind) (source : Option DecodeError)
    (rawHeader : Option (Vector UInt8 10)) :
    (r.onViolation violation context kind source rawHeader now).Punctual := by
  unfold onViolation
  split
  · exact ((Inert.onShutdown r _ none now).trans (Inert.emit _ rfl)).punctual hr
  · refine ((Inert.applyActions _ _ now).trans (Inert.emit _ rfl)).punctual ?_
    exact Punctual.callCore ((Inert.update r _).punctual hr) hrests fun _ => hlive

theorem punctual_onDecodeStep (hr : r.Punctual) (h : Settled r.driver) (step : HsmsSsDecodeStep)
    (rawHeader : Option (Vector UInt8 10)) (now : MonoTime) :
    (r.onDecodeStep step rawHeader now).Punctual := by
  have hdue := (Inert.processDueDeadlines r now).punctual hr
  have hrests := rests_processDueDeadlines h now
  have hperforms : Performs false r (r.processDueDeadlines now) := performs_processDueDeadlines now
  have hsettled := hperforms.settled h
  unfold onDecodeStep
  split
  · exact punctual_onMessage hr h _ now
  · dsimp only
    split
    · exact (Inert.emit _ rfl).punctual hdue
    · next hopen =>
      have hlive := hsettled.live hopen
      split
      · exact punctual_onViolation hdue hrests hlive _ _ _ none rawHeader
      · exact punctual_onViolation hdue hrests hlive _ _ _ _ rawHeader
      · exact ((Inert.failRuntimeInvariant _ now).trans (Inert.emit _ rfl)).punctual hdue

omit [WriterIngress W] in
theorem now_coreInput (kind : AcceptedCommandKind) (c : CommandId) (now : MonoTime) :
    (kind.coreInput c now).now = now ∧ (kind.coreInput c now).isOutcome = false := by
  cases kind <;> exact ⟨rfl, rfl⟩

theorem punctual_presentCommand (hr : r.Punctual) (hrests : r.driver.core.Rests now)
    (hlive : r.driver.core.closing = false) (accepted : AcceptedCommand κ)
    (permit : Option (WriterIngress.DataPermit W)) :
    (r.presentCommand accepted permit now).Punctual := by
  unfold presentCommand
  split
  · have hreject (r : Round W κ) (hr : r.Punctual) :
        ((r.rejectCommand accepted .connectionLost).failRuntimeInvariant now).Punctual :=
      ((Inert.rejectCommand r accepted _).trans (Inert.failRuntimeInvariant _ now)).punctual hr
    cases permit with
    | some permit => exact hreject _ ((Inert.update r _).punctual hr)
    | none => exact hreject r hr
  · next value hnext =>
    obtain ⟨hnow, -⟩ := now_coreInput accepted.kind ⟨value⟩ now
    refine ((Inert.applyBatch _ _ permit now none).trans (Inert.finishCloseIfReady _)).punctual ?_
    refine Punctual.callCore ?_ (hnow.symm ▸ hrests) fun _ => hlive
    exact ((Inert.update r _).trans (Inert.emit _ rfl)).punctual hr

theorem punctual_driveCommand (hr : r.Punctual) (hrests : r.driver.core.Rests now)
    (hlive : r.driver.core.closing = false) (accepted : AcceptedCommand κ) :
    (r.driveCommand accepted now).Punctual := by
  have hset (writer : W) : (r.setWriter writer).Punctual := (Inert.update r _).punctual hr
  have hreject (r : Round W κ) (hr : r.Punctual) (error : OperationError) :
      (r.rejectCommand accepted error).Punctual :=
        (Inert.rejectCommand r accepted error).punctual hr
  have hlost (r : Round W κ) (hr : r.Punctual) :
      (((r.rejectCommand accepted .connectionLost).shutdownAfterDriverFailure
        .transportLost none now).finishCloseIfReady).Punctual :=
    ((Inert.shutdownAfterDriverFailure _ .transportLost none now).trans
      (Inert.finishCloseIfReady _)).punctual (hreject r hr .connectionLost)
  unfold driveCommand
  split
  · exact hreject r hr .draining
  · split
    · rcases WriterIngress.tryReserveMessage r.driver.writer accepted.kind.body with
        ⟨error | permit, writer⟩
      · by_cases hconnection : error = .connectionLost
        · subst hconnection
          exact hlost _ (hset writer)
        · have hother := hreject _ (hset writer) error
          cases error <;> first | exact hother | exact absurd rfl hconnection
      · exact punctual_presentCommand (hset writer) hrests hlive accepted _
    · exact punctual_presentCommand hr hrests hlive accepted none

theorem punctual_driveNextCommand (hr : r.Punctual) (h : Settled r.driver) (now : MonoTime) :
    (r.driveNextCommand now).Punctual := by
  have hdue := (Inert.processDueDeadlines r now).punctual hr
  have hrests := rests_processDueDeadlines h now
  have hperforms : Performs false r (r.processDueDeadlines now) := performs_processDueDeadlines now
  have hsettled := hperforms.settled h
  unfold driveNextCommand
  dsimp only
  split
  · exact (Inert.emit _ rfl).punctual hdue
  · next hopen =>
    split
    · exact (Inert.emit _ rfl).punctual hdue
    · next accepted rest hqueue =>
      refine (Inert.emit _ rfl).punctual ?_
      have hpop := (Inert.popCommand (r.processDueDeadlines now) accepted).punctual hdue
      have hcore : ((r.processDueDeadlines now).popCommand accepted).driver.core =
          (r.processDueDeadlines now).driver.core := by
        rw [popCommand_eq]
        rfl
      rw [← hcore] at hrests
      have hlive := hsettled.live hopen
      rw [← hcore] at hlive
      exact punctual_driveCommand hpop hrests hlive accepted

theorem punctual_onWriteOutcomeAt (hr : r.Punctual) (h : Settled r.driver) (writeId : WriteId)
    (outcome : WriteOutcome) (occurredAt now : MonoTime) :
    (r.onWriteOutcomeAt writeId outcome occurredAt now).Punctual := by
  unfold onWriteOutcomeAt
  dsimp only
  refine (((Inert.applyBatch _ _ none now none).trans (Inert.update _ _)).trans
    (((Inert.emit _ rfl).trans (Inert.satisfyCloseBarrier _ writeId)).trans
      (Inert.finishCloseIfReady _))).punctual ?_
  by_cases hcommitted : outcome = .committed
  · rw [if_pos hcommitted]
    exact ((Inert.processDueDeadlines r now).punctual hr).callCore (rests_processDueDeadlines h now)
      fun houtcome => (nomatch houtcome)
  · rw [if_neg hcommitted]
    refine (Inert.callCore r ?_).punctual hr
    cases outcome with
    | committed => exact absurd rfl hcommitted
    | notWritten fault => rfl
    | indeterminate fault => rfl

/-- The operations that present no ordinary input. -/
theorem Inert.perform (r : Round W κ) {input : DriverInput κ}
    (hdrive : ∀ now, input ≠ .driveNextCommand now)
    (hdecoded : ∀ step rawHeader now, input ≠ .decoded step rawHeader now)
    (houtcome : ∀ writeId outcome occurredAt now,
      input ≠ .writeOutcome writeId outcome occurredAt now) :
    Inert r (perform r input) := by
  have henqueue (r : Round W κ) (command : AcceptedCommand κ) : Inert r (r.enqueue command) :=
    (update r _).trans (emit _ rfl)
  have hdata (message : PrimaryMessage) (completion : κ) (replyExpected : Bool) :
      Inert r (r.tryAcceptData message completion replyExpected) := by
    unfold tryAcceptData
    repeat' split
    all_goals exact emit r rfl
  cases input with
  | acceptControl intent completion =>
    show Inert r (r.tryAcceptControl intent completion)
    unfold tryAcceptControl
    repeat' split
    all_goals exact emit r rfl
  | acceptSend message completion => exact hdata message completion false
  | acceptRequest message completion => exact hdata message completion true
  | acceptReply intent token body completion =>
    show Inert r (r.tryAcceptReply intent token body completion)
    unfold tryAcceptReply
    dsimp only
    split
    · exact emit r rfl
    · split
      · exact emit r rfl
      · exact henqueue r _
  | connected now =>
    show Inert r (r.onConnected now)
    unfold onConnected
    split
    · exact emit r rfl
    · exact ((callCore r (show (Input.connected now).isOrdinary = false from rfl)).trans
        (applyActions _ _ now)).trans (emit _ rfl)
  | driveNextCommand now => exact absurd rfl (hdrive now)
  | decoded step rawHeader now => exact absurd rfl (hdecoded step rawHeader now)
  | writeOutcome writeId outcome occurredAt now =>
    exact absurd rfl (houtcome writeId outcome occurredAt now)
  | beginShutdownDrain => exact update r _
  | finishShutdownDrain reason now =>
    exact (((update r _).trans (callCore _ (show
      (Input.finishShutdownDrain reason now).isOrdinary = false from rfl))).trans
        (applyBatch _ _ none now (some reason))).trans (finishCloseIfReady _)
  | shutdown reason failedWriteId now => exact onShutdown r reason failedWriteId now
  | advanceTime now =>
    show Inert r (r.advanceTime now)
    unfold advanceTime
    split
    · exact emit r rfl
    · exact ((callCore r (show (Input.advanceTime now).isOrdinary = false from rfl)).trans
        (applyActions _ _ now)).trans (emit _ rfl)
  | setDeliveryCapacity primaries errors => exact update r _
  | takeInbound => exact (update r _).trans (emit _ rfl)
  | takeProtocolError => exact (update r _).trans (emit _ rfl)
  | writerStopped now =>
    have hstop : Inert r (if r.driver.closing.isNone then r.onShutdown .runtimeInvariant none
        now else r) := by
      split
      · exact onShutdown r _ none now
      · exact refl r
    exact ((((hstop.trans (callCore _
      (show (Input.finalizeWriter now).isOrdinary = false from rfl))).trans
      (applyBatch _ _ none now none)).trans (update _ _)).trans (finishCloseIfReady _)).trans
        (drainAcceptedCommands _)

/-- **Every entry point presents its input with nothing due.**  So a deadline and an input of the
same time are processed in this order. -/
theorem punctual_perform (h : Settled r.driver) (hr : r.Punctual) (input : DriverInput κ) :
    (perform r input).Punctual := by
  by_cases hdrive : ∃ now, input = .driveNextCommand now
  · obtain ⟨now, rfl⟩ := hdrive
    exact punctual_driveNextCommand hr h now
  · by_cases hdecoded : ∃ step rawHeader now, input = .decoded step rawHeader now
    · obtain ⟨step, rawHeader, now, rfl⟩ := hdecoded
      exact punctual_onDecodeStep hr h step rawHeader now
    · by_cases houtcome : ∃ writeId outcome occurredAt now,
          input = .writeOutcome writeId outcome occurredAt now
      · obtain ⟨writeId, outcome, occurredAt, now, rfl⟩ := houtcome
        exact punctual_onWriteOutcomeAt hr h writeId outcome occurredAt now
      · refine (Inert.perform r (fun now heq => hdrive ⟨now, heq⟩) (fun step rawHeader now heq =>
          hdecoded ⟨step, rawHeader, now, heq⟩) fun writeId outcome occurredAt now heq =>
            houtcome ⟨writeId, outcome, occurredAt, now, heq⟩).punctual hr

end Round

/-! ## What Core has been called with -/

/-- The call of Core that an effect records. -/
def DriverEffect.call {κ : Type v} : DriverEffect κ → Option (SessionCore × Input)
  | .called core input => some (core, input)
  | _ => none

/-- The inputs that the Driver has presented to Core. -/
def presentedInputs {κ : Type v} (past : List (DriverEffect κ)) : List Input :=
  (past.filterMap DriverEffect.call).map Prod.snd

/-- Core never changes its configuration. -/
theorem SessionCore.config_handle {core : SessionCore} (hc : Coherent none core) (input : Input) :
    (core.handle input).core.config = core.config := by
  refine (steps_handle hc input).preserves (I := fun stage => stage.core.config = core.config)
    (fun _ _ _ hI he => he.config_eq.trans hI) ?_
  rw [entry_frame]

/-- What Core has emitted, each action with the input that it answers. -/
def coreHistory {κ : Type v} (past : List (DriverEffect κ)) : List (Input × CoreAction) :=
  (past.filterMap DriverEffect.call).flatMap fun call =>
    (call.1.handle call.2).actions.map fun a => (call.2, a)

/-- How one step of the Driver treats Core.  It leaves it alone, or it is one call of it. -/
inductive CoreStep {κ : Type v} (before after : SessionCore) (effects : List (DriverEffect κ)) :
    Prop where
  | rests (silent : effects.filterMap DriverEffect.call = [])
      (core : after = before ∨ after = before.withoutNotice)
  | calls (input : Input) (call : effects.filterMap DriverEffect.call = [(before, input)])
      (first : ∀ earlier core input' later, effects = earlier ++ .called core input' :: later →
        earlier.filterMap DriverEffect.call = [])
      (core : after = (before.handle input).core)

/-- **What Core knows of its own past**, from what the Driver has called it with.  The times are
those of the calls, so the statements are about committed times and not about readings of the
clock. -/
structure Clocked {κ : Type v} (config : SessionCoreConfig) (past : List (DriverEffect κ))
    (core : SessionCore) : Prop where
  config : core.config = config
  coherent : Coherent none core
  matched : Matched (coreHistory past) core
  timed : Timed (presentedInputs past) core
  tenured : core.Tenured (coreHistory past)

section

variable {config : SessionCoreConfig} {past effects : List (DriverEffect κ)}
  {core after : SessionCore}

theorem presentedInputs_append : presentedInputs (past ++ effects) =
    presentedInputs past ++ presentedInputs effects := by
  unfold presentedInputs
  rw [List.filterMap_append, List.map_append]

theorem coreHistory_append :
    coreHistory (past ++ effects) = coreHistory past ++ coreHistory effects := by
  unfold coreHistory
  rw [List.filterMap_append, List.flatMap_append]

/-- Effects without a call add nothing to the past of Core. -/
theorem Clocked.silent (h : Clocked config past core)
    (hsilent : effects.filterMap DriverEffect.call = []) :
    Clocked config (past ++ effects) core := by
  have hinputs : presentedInputs (past ++ effects) = presentedInputs past := by
    rw [presentedInputs_append, presentedInputs, presentedInputs, hsilent]
    exact List.append_nil _
  have hhistory : coreHistory (past ++ effects) = coreHistory past := by
    rw [coreHistory_append, coreHistory, coreHistory, hsilent]
    exact List.append_nil _
  refine ⟨h.config, h.coherent, ?_, ?_, ?_⟩
  · rw [hhistory]
    exact h.matched
  · rw [hinputs]
    exact h.timed
  · rw [hhistory]
    exact h.tenured

/-- A call adds the round of Core to its past. -/
theorem Clocked.calls (h : Clocked config past core) {input : Input}
    (hcall : effects.filterMap DriverEffect.call = [(core, input)]) :
    Clocked config (past ++ effects) (core.handle input).core := by
  have hinputs : presentedInputs (past ++ effects) = presentedInputs past ++ [input] := by
    rw [presentedInputs_append, presentedInputs, presentedInputs, hcall]
    rfl
  have hhistory : coreHistory (past ++ effects) =
      coreHistory past ++ (core.handle input).actions.map fun a => (input, a) := by
    rw [coreHistory_append, coreHistory, coreHistory, hcall, List.flatMap_singleton]
  refine ⟨(SessionCore.config_handle h.coherent input).trans h.config, h.coherent.handle input, ?_,
    ?_, ?_⟩
  · rw [hhistory]
    exact h.matched.handle h.coherent
  · rw [hinputs]
    exact h.timed.handle h.coherent input
  · rw [hhistory]
    exact h.tenured.handle h.coherent input

theorem Clocked.withoutNotice (h : Clocked config past core) :
    Clocked config past core.withoutNotice where
  config := h.config
  coherent := h.coherent.observe rfl
  matched := ⟨h.matched.parked, h.matched.asked, h.matched.buried⟩
  timed := ⟨h.timed.contracts, h.timed.resolved, h.timed.unarmed, h.timed.armed⟩
  tenured := h.tenured

theorem Clocked.step (h : Clocked config past core) (hstep : CoreStep core after effects) :
    Clocked config (past ++ effects) after := by
  cases hstep with
  | rests silent hcore =>
    rcases hcore with rfl | rfl
    · exact h.silent silent
    · exact h.withoutNotice.silent silent
  | calls input call _ hcore =>
    rw [hcore]
    exact h.calls call

/-- A call at the head of the effects of a step finds Core as it was. -/
theorem CoreStep.first (hstep : CoreStep core after effects) {earlier later : List (DriverEffect κ)}
    {found : SessionCore} {input : Input}
    (hsplit : effects = earlier ++ .called found input :: later) :
    found = core ∧ earlier.filterMap DriverEffect.call = [] := by
  cases hstep with
  | rests silent _ =>
    rw [hsplit, List.filterMap_append, List.append_eq_nil_iff] at silent
    cases silent.2
  | calls input' call first _ =>
    have hnone := first earlier found input later hsplit
    rw [hsplit, List.filterMap_append, hnone, List.nil_append] at call
    cases (List.cons.inj call).1
    exact ⟨rfl, hnone⟩

end

/-- The Driver has a Core that knows its past, and so was every Core that it has called. -/
structure Recorded {W : Type u} {κ : Type v} (config : SessionCoreConfig)
    (past : List (DriverEffect κ))
    (stage : DriverStage W κ) : Prop where
  clocked : Clocked config past stage.driver.core
  called : ∀ earlier core input later, past = earlier ++ .called core input :: later →
    Clocked config earlier core

section

variable {W : Type u} {κ : Type v} [WriterIngress W] {admits : Bool}
  {stage stage' : DriverStage W κ}
  {effects past : List (DriverEffect κ)} {config : SessionCoreConfig}

omit [WriterIngress W] in
theorem call_dischargeEffects (driver : SessionDriver W κ) (charge : ℕ) :
    (driver.dischargeEffects charge).filterMap DriverEffect.call = [] := by
  unfold dischargeEffects
  split
  · rfl
  · rfl

omit [WriterIngress W] in
theorem call_closeEffects (driver : SessionDriver W κ) (reason : GenerationCloseReason)
    (barrier : CloseBarrier) :
    (driver.closeEffects reason barrier).filterMap DriverEffect.call = [] := by
  unfold closeEffects
  split
  · rfl
  · rfl

/-- **Every step of the Driver leaves Core alone or calls it once.**  All that a batch does to
Core has been done before it is applied. -/
theorem DriverStep.coreStep (h : DriverStep admits stage effects stage') :
    CoreStep stage.driver.core stage'.driver.core effects := by
  have hcalled {core after : SessionCore} (quiet : List (DriverEffect κ)) {input : Input}
      (hquiet : quiet.filterMap DriverEffect.call = [])
      (hafter : after = (core.handle input).core) :
      CoreStep core after (quiet ++ [.called core input]) := by
    refine .calls input ?_ (fun earlier core' input' later hsplit => ?_) hafter
    · rw [List.filterMap_append, hquiet]
      rfl
    · rcases List.append_eq_append_iff.mp hsplit with ⟨more, hearlier, hlast⟩ | ⟨more, hq, hlast⟩
      · rcases List.append_eq_cons_iff.mp hlast.symm with ⟨rfl, -⟩ | ⟨rest, rfl, hrest⟩
        · rw [hearlier, List.append_nil]
          exact hquiet
        · cases (List.append_eq_nil_iff.mp hrest.symm).2
      · rw [hq, List.filterMap_append, List.append_eq_nil_iff] at hquiet
        exact hquiet.1
  cases h with
  | call input _ => exact hcalled [] rfl rfl
  | present now _ _ _ _ =>
    rw [List.append_cons]
    refine hcalled (_ ++ [_]) ?_ rfl
    rw [List.filterMap_append, call_dischargeEffects]
    rfl
  | fail _ _ _ => exact hcalled [] rfl rfl
  | @deliver d _ message capability _ _ =>
    refine .rests ?_ (.inl rfl)
    cases capability <;> rfl
  | notice _ => exact .rests rfl (.inr rfl)
  | close => exact .rests (call_closeEffects _ _ _) (.inl rfl)
  | shutDown _ _ => exact .rests (call_closeEffects _ _ _) (.inl rfl)
  | reject _ _ =>
    refine .rests ?_ (.inl rfl)
    rw [List.filterMap_append, call_dischargeEffects]
    rfl
  | @answer d _ effect returns =>
    refine .rests ?_ (.inl rfl)
    cases effect with
    | called _ _ => cases returns
    | _ => rfl
  | send _ _ | sendAgain _ _ | observe | settle _ _ | idle _ | abandon _ | rest _ | settleWrite _
  | stopWriter _ | closeTransport _ _ | accept _ _ _ _ _ _ | orphan _ _ | takeInbound | drain
  | adjust _ _ _ => exact .rests rfl (.inl rfl)

theorem Recorded.step (h : Recorded config past stage)
    (hstep : DriverStep admits stage effects stage') :
    Recorded config (past ++ effects) stage' := by
  have hcore := hstep.coreStep
  refine ⟨h.clocked.step hcore, fun earlier core input later hsplit => ?_⟩
  rcases List.append_eq_append_iff.mp hsplit with ⟨more, hearlier, hlast⟩ | ⟨more, hpast, hlast⟩
  · obtain ⟨rfl, hsilent⟩ := hcore.first hlast
    rw [hearlier]
    exact h.clocked.silent hsilent
  · rcases List.cons_eq_append_iff.mp hlast with ⟨rfl, heffects⟩ | ⟨rest, rfl, -⟩
    · have hhead : effects = [] ++ .called core input :: later := heffects
      obtain ⟨rfl, -⟩ := hcore.first hhead
      rw [List.append_nil] at hpast
      rw [← hpast]
      exact h.clocked
    · exact h.called earlier core input rest hpast

end

/-! ## Expiry before input -/

section

variable {κ : Type v} {past : List (DriverEffect κ)} {config : SessionCoreConfig}
  {core : SessionCore}
  {message : ProtocolMessage} {now : MonoTime}

/-- The committed outcomes of a write that Core has handled all lie within a period of `now`. -/
def CommittedWithin (past : List (DriverEffect κ)) (w : WriteId) (period : Duration)
    (now : MonoTime) :
    Prop :=
  ∀ occurredAt processed, .writeOutcome w .committed occurredAt processed ∈ presentedInputs past →
    ∀ deadline, occurredAt.checkedAdd period = some deadline → now < deadline

/-- A timer that is not due has been started within its period. -/
theorem Clocked.committedWithin (h : Clocked config past core) {timer : CommitTimer}
    (hheld : core.Holds timer) (hundue : ∀ deadline, timer.deadline = some deadline →
      now < deadline) :
    CommittedWithin past timer.writeId (core.period timer.kind) now := by
  intro occurredAt processed hmem deadline hadds
  refine hundue deadline ?_
  rw [← hadds]
  exact (h.timed.armed timer hheld occurredAt processed hmem).symm

theorem SessionCore.Rests.undue (h : core.Rests now) (hlive : core.closing = false)
    (hstate : core.state ≠ none) : core.Undue now := by
  rcases rests_iff.mp h with hclosing | hnone | ⟨hundue, -⟩
  · cases hlive.symm.trans hclosing
  · exact absurd hnone hstate
  · exact hundue

/-- A message completes nothing with success before the session is connected. -/
theorem SessionCore.no_success_of_disconnected (hstate : core.state = none) {c : CommandId} :
    .completeCommand c (.control (.ok ())) ∉ (core.handle (.message message now)).actions := by
  show _ ∉ (core.onMessage message now).actions
  unfold onMessage
  rcases (Turn.start { core with notice := none }).acceptTime_cases now with ⟨-, heq⟩ | ⟨-, heq⟩
  · rw [heq]
    dsimp only
    rw [Turn.failRuntimeInvariant_eq, Turn.endGeneration_actions]
    exact success_not_mem_endActions
  · rw [heq]
    dsimp only
    rw [if_pos (by show (core.state.isNone || core.closing) = true; rw [hstate]; rfl)]
    exact List.not_mem_nil

/-- **T6 beats the response.**  A response that is accepted has come before the time that was
armed by the commit of its request. -/
theorem Clocked.control_in_time (h : Clocked config past core) (hrests : core.Rests now)
    (hlive : core.closing = false)
    (hover : (core.handle (.message message now)).overflowed = false) {c : CommandId}
    (hmem : .completeCommand c (.control (.ok ())) ∈ (core.handle (.message message now)).actions) :
    (∃ transaction, core.activeTransaction = some transaction ∧ transaction.commandId = some c ∧
      CommittedWithin past transaction.writeId config.timeouts.t6 now) ∨
    core.activeTransaction = none ∧
      ∃ drain, core.deselectDrain = some drain ∧ drain.commandId = c ∧ now < drain.deadline := by
  have hundue := hrests.undue hlive fun hnone => SessionCore.no_success_of_disconnected hnone hmem
  rcases waits_of_success h.coherent hover hmem with ⟨transaction, hactive, hcommand⟩ |
    ⟨drain, hdrain, hcommand⟩
  · refine .inl ⟨transaction, hactive, hcommand, ?_⟩
    have hwithin : CommittedWithin past transaction.writeId core.config.timeouts.t6 now :=
      h.committedWithin
      (.inl (controlTimer_eq_some.mpr ⟨transaction, c, hactive, hcommand, rfl⟩))
      fun deadline => hundue.control transaction deadline hactive
    rw [← h.config]
    exact hwithin
  · exact .inr ⟨(h.coherent.drain_alone hlive (by rw [hdrain]; rfl)).1, drain, hdrain, hcommand,
      hundue.drain drain hdrain⟩

/-- **T3 beats the Secondary.**  A Secondary that completes a Request has come before the time
that was armed by the commit of that Request. -/
theorem Clocked.request_in_time (h : Clocked config past core) {input : Input}
    (hrests : core.Rests input.now) (hlive : core.closing = false) {c : CommandId}
    {response : MatchedSecondary}
    (hmem : .completeCommand c (.request (.ok response)) ∈ (core.handle input).actions) :
    ∃ w frame, requestOf (coreHistory past) c = some (w, frame) ∧
      CommittedWithin past w config.timeouts.t3 input.now := by
  obtain ⟨_, _, transaction, frame, result, -, hlook, hasked, -, -, heq⟩ :=
    response_of_handle h.matched h.coherent hmem rfl
  obtain ⟨rfl, -⟩ := CoreAction.completeCommand.inj heq
  have hstate : core.state ≠ none := by
    intro hnone
    have hquiet := (h.coherent.unselected_quiet hlive (by rw [hnone]; nofun)).1
    rw [hquiet.1] at hlook
    exact TreeMap.getElem?_empty_ne hlook
  have hundue := hrests.undue hlive hstate
  refine ⟨transaction.writeId, frame, hasked, ?_⟩
  have hwithin : CommittedWithin past transaction.writeId core.config.timeouts.t3 input.now :=
    h.committedWithin (.inr ⟨_, requestTimer_eq_some.mpr ⟨transaction, hlook, rfl⟩⟩)
    fun deadline => hundue.request _ transaction deadline hlook
  rw [← h.config]
  exact hwithin

/-- **T7 beats the Select.**  A Select that is granted has come before the time that was armed
with the tenure. -/
theorem Clocked.selection_in_time (h : Clocked config past core) {input : Input}
    (hrests : core.Rests input.now) (hlive : (core.handle input).core.closing = false)
    (hbefore : core.state ≠ some .selected)
    (hafter : (core.handle input).core.state = some .selected) :
    ∃ start deadline, tenureStart (coreHistory past) = some start ∧
      start.checkedAdd config.timeouts.t7 = some deadline ∧ input.now < deadline := by
  have hopen : core.closing = false := by
    cases hclosing : core.closing with
    | false => rfl
    | true =>
      have hclosed := (closesOnce_handle h.coherent input).kept hclosing
      cases hclosed.symm.trans hlive
  cases transition_handle h.coherent hlive with
  | none state _ => exact absurd (state.symm.trans hafter) hbefore
  | connected _ _ state _ _ => cases state.symm.trans hafter
  | deselected _ _ state _ _ => cases state.symm.trans hafter
  | selected _ before _ _ =>
    obtain ⟨start, deadline, hstart, hadds, harmed⟩ := h.tenured hopen before
    rw [h.config] at hadds
    have hundue := hrests.undue hopen (by rw [before]; nofun)
    exact ⟨start, deadline, hstart, hadds, hundue.selection deadline harmed⟩

end

variable (generation : ConnectionGeneration) (tokenOwner : ℕ) (config : SessionCoreConfig)
  (nextWriteId : Option UInt64) (nextSystemBytes : Option UInt32) (writer : W)
  (bounds : DriverBounds)
  [WriterIngress W]

theorem clocked_initial :
    Clocked (κ := κ) config [] (.initial config nextWriteId nextSystemBytes) where
  config := rfl
  coherent := coherent_initial config nextWriteId nextSystemBytes
  matched := matched_initial config nextWriteId nextSystemBytes
  timed := by
    have hnone (timer : CommitTimer) :
        ¬ (SessionCore.initial config nextWriteId nextSystemBytes).Holds timer := by
      rintro (hheld | ⟨sb, hheld⟩)
      · obtain ⟨_, _, hactive, -⟩ := controlTimer_eq_some.mp hheld
        cases hactive
      · obtain ⟨_, hlook, -⟩ := requestTimer_eq_some.mp hheld
        exact TreeMap.getElem?_empty_ne hlook
    exact ⟨fun k header hk => absurd hk TreeMap.getElem?_empty_ne, fun _ _ _ _ _ hmem =>
      (nomatch hmem),
      fun timer hheld => absurd hheld (hnone timer), fun timer hheld => absurd hheld (hnone timer)⟩
  tenured := fun _ hstate => (nomatch hstate)

/-- The invariant of a run for what Core is called with. -/
theorem recorded_run (inputs : List (DriverInput κ)) :
    let driver : SessionDriver W κ :=
      machine.after (.initial generation tokenOwner config nextWriteId
      nextSystemBytes writer bounds) inputs
    Round.Settled driver ∧ Recorded config
      (machine.history (.initial generation tokenOwner config nextWriteId nextSystemBytes
        writer bounds)
        inputs) ⟨driver, none, []⟩ := by
  have hrun := invariant_history
    (I := fun past stage => Sound stage ∧ stage.Follows ∧ Recorded config past stage)
    (fun _ _ _ _ _ hI hstep => ⟨hI.1.step hstep, hI.2.1.step hI.1 hstep, hI.2.2.step hstep⟩)
    ⟨sound_initial generation tokenOwner config nextWriteId nextSystemBytes writer bounds,
      fun hclosing => (nomatch hclosing),
      clocked_initial config nextWriteId nextSystemBytes, fun _ _ _ _ hsplit => by simp at hsplit⟩
    inputs
  exact ⟨⟨hrun.1, hrun.2.1⟩, hrun.2.2⟩

/-- **Expiry beats queued input.**  Whatever ordinary input the Driver presents to Core, in any run,
`next_deadline` of that Core is `None` or later than the time of the input, and Core is open unless
the input reports a write.  So a message completes no control command at T6 after the commit of its
request, no Request at T3 after that of its Primary, and selects no session at T7 after the start of
its NotSelected tenure. -/
theorem expiry_precedes_input (inputs : List (DriverInput κ)) :
    let history := machine.history
        (.initial generation tokenOwner config nextWriteId nextSystemBytes writer
      bounds : SessionDriver W κ) inputs
    ∀ earlier core input later, history = earlier ++ .called core input :: later →
      (input.isOrdinary = true → core.Rests input.now ∧
        (input.isOutcome = false → core.closing = false)) ∧
      ∀ message now, input = .message message now →
        (∀ c, (core.handle input).overflowed = false →
          .completeCommand c (.control (.ok ())) ∈ (core.handle input).actions →
          (∃ transaction, core.activeTransaction = some transaction ∧
            transaction.commandId = some c ∧
            CommittedWithin earlier transaction.writeId config.timeouts.t6 now) ∨
          core.activeTransaction = none ∧
            ∃ drain, core.deselectDrain = some drain ∧ drain.commandId = c ∧ now < drain.deadline) ∧
        (∀ c response, .completeCommand c (.request (.ok response)) ∈ (core.handle input).actions →
          ∃ w frame, requestOf (coreHistory earlier) c = some (w, frame) ∧
            CommittedWithin earlier w config.timeouts.t3 now) ∧
        ((core.handle input).core.closing = false → core.state ≠ some .selected →
          (core.handle input).core.state = some .selected →
          ∃ start deadline, tenureStart (coreHistory earlier) = some start ∧
            start.checkedAdd config.timeouts.t7 = some deadline ∧ now < deadline) := by
  intro history earlier core input later hsplit
  obtain ⟨-, hrecorded⟩ :=
    recorded_run (κ := κ) generation tokenOwner config nextWriteId nextSystemBytes
    writer bounds inputs
  have hclocked := hrecorded.called earlier core input later hsplit
  have hpunctual : input.isOrdinary = true →
      core.Rests input.now ∧ (input.isOutcome = false → core.closing = false) := by
    intro hordinary
    obtain ⟨before, entry, after, -, hmem⟩ := machine.exists_of_mem_history
      (show .called core input ∈ history by rw [hsplit]; simp)
    have hsettled := (recorded_run (κ := κ) generation tokenOwner config nextWriteId nextSystemBytes
      writer bounds before).1
    exact Round.punctual_perform (r := .start _) hsettled
      (Round.punctual_start _) entry core input hmem
      hordinary
  refine ⟨hpunctual, ?_⟩
  rintro message now rfl
  obtain ⟨hrests, hopen⟩ := hpunctual rfl
  have hlive := hopen rfl
  exact ⟨fun c hover hmem => hclocked.control_in_time hrests hlive hover hmem,
    fun c response hmem => hclocked.request_in_time hrests hlive hmem,
    fun hafter hbefore hselected => hclocked.selection_in_time hrests hafter hbefore hselected⟩

end Hsms
end SecsRust
