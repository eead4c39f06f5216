import SecsRust.Hsms.Generation.Driver.Closing
import SecsRust.Hsms.Generation.Driver.LastBatch
import SecsRust.Hsms.Generation.Runtime

/-!
# The graceful close of a generation

`begin_graceful_close` and `advance_shutdown` of `hsms/generation/runtime.rs`.  A graceful
close lets commands that have been accepted run out, ends the session by a Separate, and has
two deadlines: one for the drain, at which the Separate is sent in any case, and one for the
shutdown, at which the transport is closed in any case.  Other things go on meanwhile.  The
peer may close, the Writer may fail, and the application may ask for another close.

## The generation as a machine

The owner of a generation performs its operations in any order (`GenerationInput`), with any
readings of the clock.  The two calls of the Driver that belong to a drain are no operations
of the owner: the generation makes them by itself, and `GenerationInput.call` excludes them.

## Small steps

What an operation does is a sequence of steps (`GenerationStep`): another call of the
Driver; the begin of the drain, which is possible once; and its end, which is due when the
drain is ready or its deadline has passed.  Each function of the source is shown to proceed
by such steps (`GenerationRound.Proceeds`), and from then on only the steps are looked at.

From the begin on the terms of the drain are kept.  `Draining` lists them: the reason and
both deadlines stand, only replies have been accepted since, the drain has been ended at
most once and for its own reason, and what was sent from then on is the Separate of that one
batch.  The last clause rests on `LastBatch`.  The close of the transport at the second
deadline is a fact about single operations (`Draining.transportClosed_step`), since it
depends on the clock that an operation reads. `graceful_close_keeps_its_terms` collects all
of it over every run.
-/

namespace SecsRust
namespace Hsms

open Std SessionDriver

universe u v

/-! ## The generation as a machine -/

/-- The call of the Driver begins or ends a shutdown drain. -/
def DriverInput.drains {κ : Type v} : DriverInput κ → Bool
  | .beginShutdownDrain | .finishShutdownDrain .. => true
  | _ => false

/-- A call of the Driver that a generation makes by itself. -/
def DriverInput.isOwn {κ : Type v} : DriverInput κ → Bool
  | .driveNextCommand _ | .decoded .. | .writeOutcome .. | .shutdown .. | .advanceTime _
  | .setDeliveryCapacity .. | .writerStopped _ => true
  | _ => false

/-- An operation of the owner of a generation.  A run of a generation is a list of these, with
arbitrary readings of the clock. -/
inductive GenerationInput (κ : Type v) where
  | call (input : DriverInput (RuntimeCompletion κ)) (ordinary : input.drains = false)
  | beginGracefulClose (reason : GenerationCloseReason) (now logical : MonoTime)
  | forceClose (reason : GenerationCloseReason) (now : MonoTime)
  | processReadyPriority (terminal : Option IoEvent) (first second : Readings)
  | step (polls : Polls) (capacity : Option (ℕ × ℕ)) (readings : Readings)
  | finish (now : MonoTime) (cleanup : Cleanup)
  | recoverCleanup (now : MonoTime) (cleanup : Cleanup)

/-- The calls of the Driver that an operation makes for its owner. -/
def GenerationInput.Calls {κ : Type v} : GenerationInput κ → DriverInput (RuntimeCompletion κ) →
    Prop
  | .call input _, called => called = input
  | _, _ => False

/-- The readings of the clock at which an operation advances the shutdown. -/
def GenerationInput.Reads {κ : Type v} : GenerationInput κ → MonoTime → Prop
  | .processReadyPriority _ first second, checked =>
    checked = first.checked ∨ checked = second.checked
  | .step _ _ readings, checked => checked = readings.checked
  | _, _ => False

namespace GenerationRuntime

variable {W : Type u} {κ : Type v} [WriterIngress W]

/-- The operation that an input calls. -/
def perform (r : GenerationRound W κ) : GenerationInput κ → GenerationRound W κ
  | .call input _ => r.call input
  | .beginGracefulClose reason now logical => r.beginGracefulClose reason now logical
  | .forceClose reason now => r.forceClose reason now
  | .processReadyPriority terminal first second => r.processReadyPriority terminal first second
  | .step polls capacity readings => r.step polls capacity readings
  | .finish now cleanup => (r.finish now cleanup).1
  | .recoverCleanup now cleanup => (r.recoverCleanup now cleanup).1

/-- The generation as a machine. -/
def machine : Machine (GenerationRuntime W κ) (GenerationInput κ)
    (DriverEffect (RuntimeCompletion κ)) where
  step runtime input :=
    let r := perform (.start runtime) input
    (r.runtime, r.effects)

/-- A generation whose Driver no input has reached yet. -/
def initial (driver : SessionDriver W (RuntimeCompletion κ)) (policy : RuntimePolicy) :
    GenerationRuntime W κ where
  generation := driver.generation
  driver := driver
  preferCommand := false
  policy := policy
  shutdown := none

end GenerationRuntime

/-! ## Small steps -/

section

variable {W : Type u} {κ : Type v} [WriterIngress W]

/-- **The steps of a generation** in an operation that calls the Driver for its owner as `calls` and
reads the clock as `reads` says. -/
inductive GenerationStep (calls : DriverInput (RuntimeCompletion κ) → Prop)
    (reads : MonoTime → Prop) :
    GenerationRuntime W κ → List (DriverEffect (RuntimeCompletion κ)) → GenerationRuntime W κ →
      Prop where
  | call {g} (input : DriverInput (RuntimeCompletion κ)) (called : input.isOwn = true ∨ calls input)
      (ordinary : input.drains = false) :
      GenerationStep calls reads g (SessionDriver.machine.step g.driver input).2
        { g with driver := (SessionDriver.machine.step g.driver input).1 }
  | prefer {g} (preferCommand : Bool) : GenerationStep calls reads g []
      { g with preferCommand := preferCommand }
  | begin {g} (reason : GenerationCloseReason) {now drain shutdown : MonoTime}
      (fresh : g.isDraining = false)
      (drains : now.checkedAdd g.policy.drain = some drain)
      (shuts : now.checkedAdd g.policy.shutdown = some shutdown) :
      GenerationStep calls reads g []
        { g with
          driver := { g.driver with shutdownDraining := true }
          shutdown := some ⟨reason, min drain shutdown, shutdown, false⟩ }
  | giveUp {g} (fresh : g.isDraining = false) :
      GenerationStep calls reads g [] { g with driver :=
        { g.driver with shutdownDraining := true } }
  | finalize {g drain} (checked logical : MonoTime) (waits : g.shutdown = some drain)
      (once : drain.finalizing = false) (read : reads checked)
      (due : drain.drainDeadline ≤ checked ∨ g.driver.shutdownDrainReady = true) :
      GenerationStep calls reads g
        (SessionDriver.machine.step g.driver (.finishShutdownDrain drain.reason logical)).2
        { g with
          driver := (SessionDriver.machine.step g.driver
            (.finishShutdownDrain drain.reason logical)).1
          shutdown := some { drain with finalizing := true } }

end

namespace GenerationRound

variable {W : Type u} {κ : Type v} [WriterIngress W]
  {calls : DriverInput (RuntimeCompletion κ) → Prop}
  {reads : MonoTime → Prop} {r r' r'' : GenerationRound W κ}

/-- `r` becomes `r'` by steps with the effects that `r'` has in addition. -/
def Proceeds (calls : DriverInput (RuntimeCompletion κ) → Prop) (reads : MonoTime → Prop)
    (r r' : GenerationRound W κ) : Prop :=
  ∃ effects, r'.effects = r.effects ++ effects ∧
    Steps (GenerationStep calls reads) r.runtime effects r'.runtime

namespace Proceeds

theorem refl (r : GenerationRound W κ) : Proceeds calls reads r r :=
  ⟨[], (List.append_nil _).symm, .refl _⟩

theorem trans (h : Proceeds calls reads r r') (h' : Proceeds calls reads r' r'') :
    Proceeds calls reads r r'' := by
  obtain ⟨effects, heffects, hsteps⟩ := h
  obtain ⟨effects', heffects', hsteps'⟩ := h'
  exact ⟨effects ++ effects', by rw [heffects', heffects, List.append_assoc], hsteps.trans hsteps'⟩

theorem of_step {effects : List (DriverEffect (RuntimeCompletion κ))} {g : GenerationRuntime W κ}
    (h : GenerationStep calls reads r.runtime effects g) :
    Proceeds calls reads r ⟨g, r.effects ++ effects⟩ :=
  ⟨effects, rfl, .single h⟩

theorem call (r : GenerationRound W κ) {input : DriverInput (RuntimeCompletion κ)}
    (called : input.isOwn = true ∨ calls input) (ordinary : input.drains = false) :
    Proceeds calls reads r (r.call input) :=
  of_step (.call input called ordinary)

theorem prefer (r : GenerationRound W κ) (preferCommand : Bool) :
    Proceeds calls reads r (r.note preferCommand r.runtime.shutdown) :=
  ⟨[], (List.append_nil _).symm, .single (.prefer preferCommand)⟩

theorem beginGracefulClose (r : GenerationRound W κ) (reason : GenerationCloseReason)
    (now logical : MonoTime) :
    Proceeds calls reads r (r.beginGracefulClose reason now logical) := by
  unfold GenerationRound.beginGracefulClose
  split
  · exact refl r
  · next hfresh =>
    have hfresh : r.runtime.isDraining = false := Bool.eq_false_of_not_eq_true hfresh
    dsimp only
    split
    · next drain shutdown hdrain hshutdown =>
      exact ⟨[], rfl, .single (.begin reason hfresh hdrain hshutdown)⟩
    · exact trans ⟨[], rfl, .single (.giveUp hfresh)⟩ (call _ (Or.inl rfl) rfl)

theorem advanceShutdown (r : GenerationRound W κ) {now : MonoTime} (logical : MonoTime)
    (hread : reads now) :
    Proceeds calls reads r (r.advanceShutdown now logical) := by
  unfold GenerationRound.advanceShutdown
  split
  · exact refl r
  · next drain hwaits =>
    split
    · exact call r (Or.inl rfl) rfl
    · split
      · next hdue =>
        rw [Bool.and_eq_true, Bool.not_eq_true', Bool.or_eq_true, decide_eq_true_eq] at hdue
        exact of_step (.finalize now logical hwaits hdue.1 hread hdue.2)
      · exact refl r

theorem applyWriteReport (r : GenerationRound W κ) (report : WriterReport) (now : MonoTime) :
    Proceeds calls reads r (r.applyWriteReport report now) := by
  unfold GenerationRound.applyWriteReport
  split <;> exact call r (Or.inl rfl) rfl

theorem applyEvent (r : GenerationRound W κ) (event : Option IoEvent) (now : MonoTime) :
    Proceeds calls reads r (r.applyEvent event now) := by
  unfold GenerationRound.applyEvent
  split
  · split <;> exact call r (Or.inl rfl) rfl
  · exact applyWriteReport r _ now
  · exact call r (Or.inl rfl) rfl
  · exact (call r (Or.inl rfl) rfl).trans (call _ (Or.inl rfl) rfl)
  · exact call r (Or.inl rfl) rfl

theorem sampleCapacity (r : GenerationRound W κ) (capacity : Option (ℕ × ℕ)) :
    Proceeds calls reads r (r.sampleCapacity capacity) := by
  unfold GenerationRound.sampleCapacity
  split
  · exact call r (Or.inl rfl) rfl
  · exact refl r

theorem applyRound (r : GenerationRound W κ) (input : RoundInput) (capacity : Option (ℕ × ℕ))
    {readings : Readings} (hread : reads readings.checked) :
    Proceeds calls reads r (r.applyRound input capacity readings) := by
  refine (sampleCapacity r capacity).trans ?_
  cases input with
  | shutdown => exact advanceShutdown _ _ hread
  | io event => exact (prefer _ true).trans (applyEvent _ _ _)
  | timer => exact (call _ (Or.inl rfl) rfl).trans (advanceShutdown _ _ hread)
  | command => exact (prefer _ false).trans (call _ (Or.inl rfl) rfl)

theorem step (r : GenerationRound W κ) (polls : Polls) (capacity : Option (ℕ × ℕ))
    {readings : Readings} (hread : reads readings.checked) :
    Proceeds calls reads r (r.step polls capacity readings) := by
  unfold GenerationRound.step
  split
  · exact refl r
  · split
    · exact refl r
    · exact applyRound r _ capacity hread

theorem processReadyPriority (r : GenerationRound W κ) (terminal : Option IoEvent)
    {first second : Readings} (hfirst : reads first.checked) (hsecond : reads second.checked) :
    Proceeds calls reads r (r.processReadyPriority terminal first second) := by
  unfold GenerationRound.processReadyPriority
  split
  · exact refl r
  · dsimp only
    cases terminal with
    | some event =>
      dsimp only
      split
      · exact applyRound r _ none hfirst
      · exact (applyRound r _ none hfirst).trans (applyRound _ _ none hsecond)
    | none =>
      dsimp only
      split
      · exact refl r
      · exact applyRound r _ none hsecond

theorem cleanUp (r : GenerationRound W κ) (reason : GenerationCloseReason) (now : MonoTime)
    (cleanup : Cleanup) : Proceeds calls reads r (r.cleanUp reason now cleanup) := by
  have hsettled (r : GenerationRound W κ) (settled : List (WriterReport × MonoTime)) :
      Proceeds calls reads r (settled.foldl
        (fun r settled => r.applyWriteReport settled.1 settled.2) r) := by
    induction settled generalizing r with
    | nil => exact refl r
    | cons report settled ih => exact (applyWriteReport r report.1 report.2).trans (ih _)
  unfold GenerationRound.cleanUp
  dsimp only
  have hclosed : Proceeds calls reads r (r.forceClose reason now) := call r (Or.inl rfl) rfl
  split
  · exact (hclosed.trans (hsettled _ _)).trans (call _ (Or.inl rfl) rfl)
  · exact hclosed.trans (hsettled _ _)

end Proceeds

end GenerationRound

namespace GenerationRuntime

variable {W : Type u} {κ : Type v} [WriterIngress W]

/-- **One operation is a sequence of steps.**  The steps are calls of the Driver and changes of
the two fields that are the generation's own. -/
theorem steps_step (g : GenerationRuntime W κ) (input : GenerationInput κ) :
    Steps (GenerationStep input.Calls input.Reads) g (machine.step g input).2
      (machine.step g input).1 := by
  have hperform : GenerationRound.Proceeds input.Calls input.Reads (.start g)
      (perform (.start g) input) := by
    cases input with
    | call input ordinary => exact .call _ (Or.inr rfl) ordinary
    | beginGracefulClose reason now logical => exact .beginGracefulClose _ reason now logical
    | forceClose reason now => exact .call _ (Or.inl rfl) rfl
    | processReadyPriority terminal first second =>
      exact .processReadyPriority _ terminal (Or.inl rfl) (Or.inr rfl)
    | step polls capacity readings => exact .step _ polls capacity rfl
    | finish now cleanup => exact .cleanUp _ _ now cleanup
    | recoverCleanup now cleanup => exact .cleanUp _ _ now cleanup
  obtain ⟨effects, heffects, hsteps⟩ := hperform
  rw [show (machine.step g input).2 = effects from heffects]
  exact hsteps

/-- The round is a run of the generation. -/
def IsRun (g : GenerationRuntime W κ) (r : GenerationRound W κ) : Prop :=
  ∃ inputs, r.runtime = machine.after g inputs ∧ r.effects = machine.history g inputs

theorem IsRun.call {g : GenerationRuntime W κ} {r : GenerationRound W κ} (h : IsRun g r)
    {input : DriverInput (RuntimeCompletion κ)} (ordinary : input.drains = false) :
    IsRun g (r.call input) := by
  obtain ⟨inputs, hruntime, heffects⟩ := h
  refine ⟨inputs ++ [.call input ordinary], ?_, ?_⟩
  · rw [machine.after_append_singleton, ← hruntime]
    rfl
  · rw [machine.history_append_singleton, ← hruntime, ← heffects]
    rfl

/-- **A new generation is a run** from a fresh Driver: the connection, and on the active side the
automatic Select. -/
theorem isRun_fromTransport {generation : ConnectionGeneration} {tokenOwner : ℕ}
    {config : EndpointConfig}
    {writer : W} {now : MonoTime} {r : GenerationRound W κ}
    (h : fromTransport generation tokenOwner config writer now = .ok r) : ∃ driver,
      SessionDriver.fromConfig generation tokenOwner config writer now = .ok driver ∧
        IsRun (initial driver config.runtime) r := by
  unfold fromTransport at h
  split at h
  · cases h
  · next driver hdriver =>
    have hgeneration : driver.generation = generation := by
      rw [SessionDriver.fromConfig_eq hdriver]; rfl
    refine ⟨driver, hdriver, ?_⟩
    have hconnected : IsRun (initial driver config.runtime)
        ((GenerationRound.start ⟨generation, driver, false, config.runtime, none⟩).call
          (.connected .zero)) := by
      rw [← hgeneration]
      exact IsRun.call ⟨[], rfl, rfl⟩ rfl
    dsimp only at h
    split at h
    · split at h
      · rw [← Except.ok.inj h]
        exact (hconnected.call rfl).call rfl
      · rw [← Except.ok.inj h]
        exact hconnected.call rfl
    · rw [← Except.ok.inj h]
      exact hconnected

end GenerationRuntime

/-! ## What every step keeps -/

section

variable {W : Type u} {κ : Type v} [WriterIngress W] {admits : Bool}
  {stage stage' : DriverStage W κ}
  {effects : List (DriverEffect κ)}

/-- A drain that has begun never ends in the Driver. -/
theorem DriverStep.shutdownDraining (h : DriverStep admits stage effects stage')
    (hdraining : stage.driver.shutdownDraining = true) : stage'.driver.shutdownDraining = true := by
  cases h with
  | drain => rfl
  | call _ _ | present _ _ _ _ _ | fail _ _ _ | deliver _ | send _ _ | sendAgain _ _
  | observe | settle _ _
  | close | idle _ | abandon _ | rest _ | shutDown _ _ | settleWrite _ | stopWriter _
  | closeTransport _ _
  | accept _ _ _ _ _ _ | reject _ _ | orphan _ _ | answer _ | notice _ | takeInbound
  | adjust _ _ _ => exact hdraining

/-- While it drains the Driver accepts replies only. -/
theorem DriverStep.replies (h : DriverStep admits stage effects stage')
    (hdraining : stage.driver.shutdownDraining = true) :
    ∀ command, .accepted command ∈ effects → command.kind.isReply = true := by
  intro command hmem
  have hquiet {effects : List (DriverEffect κ)} (hsilent :
      effects.filterMap DriverEffect.acceptance = []) :
      .accepted command ∉ effects := fun hmem => nomatch List.filterMap_eq_nil_iff.mp hsilent _ hmem
  have hdischarge (d : SessionDriver W κ) (charge : ℕ) :
      .accepted command ∉ d.dischargeEffects charge := by
    refine hquiet ?_
    unfold dischargeEffects
    split
    · rfl
    · rfl
  have hclose (d : SessionDriver W κ) (reason : GenerationCloseReason) (barrier : CloseBarrier) :
      .accepted command ∉ d.closeEffects reason barrier := by
    refine hquiet ?_
    unfold closeEffects
    split
    · rfl
    · rfl
  cases h with
  | accept _ _ _ gate _ _ =>
    rw [DriverEffect.accepted.inj (List.mem_singleton.mp hmem)]
    refine gate.resolve_right fun hopen => ?_
    exact Bool.false_ne_true (hopen.symm.trans hdraining)
  | present _ _ _ _ _ =>
    rcases List.mem_append.mp hmem with hmem | hmem
    · exact absurd hmem (hdischarge _ _)
    · rcases List.mem_pair.mp hmem with heq | heq <;> cases heq
  | reject _ _ =>
    rcases List.mem_append.mp hmem with hmem | hmem
    · exact absurd hmem (hdischarge _ _)
    · cases List.mem_singleton.mp hmem
  | close | shutDown _ _ => exact absurd hmem (hclose _ _ _)
  | @deliver d o message capability p _ =>
    refine absurd hmem (hquiet ?_)
    cases capability <;> rfl
  | @answer _ _ effect returns =>
    rw [← List.mem_singleton.mp hmem] at returns
    cases returns
  | call _ _ | fail _ _ _ | send _ _ | sendAgain _ _ | observe | settle _ _ | settleWrite _
  | closeTransport _ _ | orphan _ _ | notice _ | takeInbound => cases List.mem_singleton.mp hmem
  | idle _ | abandon _ | rest _ | stopWriter _ | drain | adjust _ _ _ => cases hmem

end

/-- The books of a generation at rest. -/
def GenerationRuntime.Booked {W : Type u} {κ : Type v} (g : GenerationRuntime W κ) : Prop :=
  Hsms.Booked ⟨g.driver, none, []⟩

/-- **The terms of a drain.**  Its reason and deadlines stand; only replies have been accepted
since; it has been ended at most once, for its own reason, and what was sent from then on is the
Separate of that batch. -/
structure Draining {W : Type u} {κ : Type v} (drain : ShutdownDrain)
    (past : List (DriverEffect (RuntimeCompletion κ))) (g : GenerationRuntime W κ) : Prop where
  terms : ∃ finalizing, g.shutdown = some { drain with finalizing := finalizing } ∧
    past.countP DriverEffect.finishes = if finalizing then 1 else 0
  draining : g.driver.shutdownDraining = true
  replies : ∀ command, .accepted command ∈ past → command.kind.isReply = true
  frames : FinishedFrames past ⟨g.driver, none, []⟩
  reason : ∀ core reason now, .called core (.finishShutdownDrain reason now) ∈ past →
    Coherent none core ∧ reason = drain.reason ∧ (core.closing = false → core.AcceptsTime now →
      core.nextWriteId.isSome = true → core.nextSystemBytes.isSome = true →
        g.driver.closeReason = some drain.reason)

section

variable {W : Type u} {κ : Type v} [WriterIngress W]
  {calls : DriverInput (RuntimeCompletion κ) → Prop}
  {reads : MonoTime → Prop} {g g' : GenerationRuntime W κ}
  {past effects : List (DriverEffect (RuntimeCompletion κ))}
  {drain : ShutdownDrain}

theorem GenerationStep.booked (h : GenerationStep calls reads g effects g') (hbooked : g.Booked) :
    g'.Booked := by
  have hdrain : Hsms.Booked ⟨{ g.driver with shutdownDraining := true }, none, []⟩ :=
    hbooked.steps (.single .drain)
  cases h with
  | call input _ _ => exact Hsms.Booked.call hbooked input
  | prefer _ => exact hbooked
  | begin _ _ _ _ => exact hdrain
  | giveUp _ => exact hdrain
  | finalize _ _ _ _ _ _ => exact Hsms.Booked.call hbooked _

/-- What any call of the Driver keeps of the terms. -/
theorem Draining.kept (h : Draining drain past g) (hbooked : g.Booked)
    (input : DriverInput (RuntimeCompletion κ)) :
    (SessionDriver.machine.step g.driver input).1.shutdownDraining = true ∧
      (∀ command, .accepted command ∈ past ++ (SessionDriver.machine.step g.driver input).2 →
        command.kind.isReply = true) ∧
      FinishedFrames (past ++ (SessionDriver.machine.step g.driver input).2)
        ⟨(SessionDriver.machine.step g.driver input).1, none, []⟩ := by
  have hround := (SessionDriver.steps_step g.driver input).accumulates
    (I := fun past stage => Sound stage ∧ stage.driver.shutdownDraining = true ∧
      (∀ command, .accepted command ∈ past → command.kind.isReply = true) ∧
        FinishedFrames past stage)
    (fun past stage effects stage' hI hstep => by
      obtain ⟨hsound, hdraining, hreplies, hframes⟩ := hI
      refine ⟨hsound.step hstep, hstep.shutdownDraining hdraining, fun command hmem => ?_,
        hframes.step hsound hstep⟩
      rcases List.mem_append.mp hmem with hmem | hmem
      · exact hreplies command hmem
      · exact hstep.replies hdraining command hmem)
    ⟨hbooked.sound, h.draining, h.replies, h.frames⟩
  exact hround.2

/-- The reason of a close, once it has begun, is kept by a call of the Driver. -/
theorem closeReason_call {d : SessionDriver W (RuntimeCompletion κ)}
    {reason : GenerationCloseReason}
    (h : d.closeReason = some reason) (input : DriverInput (RuntimeCompletion κ)) :
    (SessionDriver.machine.step d input).1.closeReason = some reason :=
  SessionDriver.reason_kept d [input] h

/-- A call of the Driver that ends no drain. -/
theorem Draining.call (h : Draining drain past g) (hbooked : g.Booked)
    {input : DriverInput (RuntimeCompletion κ)} (ordinary : input.drains = false) :
    Draining drain (past ++ (SessionDriver.machine.step g.driver input).2)
      { g with driver := (SessionDriver.machine.step g.driver input).1 } := by
  obtain ⟨effects, heffects, hquiet⟩ := Round.unfinishing_perform (.start g.driver) input
    fun reason now heq => by
      rw [heq] at ordinary
      cases ordinary
  have heffects : (SessionDriver.machine.step g.driver input).2 = effects := heffects
  obtain ⟨hdraining, hreplies, hframes⟩ := h.kept hbooked input
  obtain ⟨finalizing, hshutdown, hcount⟩ := h.terms
  refine ⟨⟨finalizing, hshutdown, ?_⟩, hdraining, hreplies, hframes, fun core reason now hmem => ?_⟩
  · have hnone : effects.countP DriverEffect.finishes = 0 :=
      List.countP_eq_zero.mpr fun effect hmem => by
        rw [hquiet effect hmem]; exact Bool.false_ne_true
    rw [heffects, List.countP_append, hcount, hnone, Nat.add_zero]
  · rcases List.mem_append.mp hmem with hmem | hmem
    · obtain ⟨hcoherent, hreason, hcloses⟩ := h.reason core reason now hmem
      refine ⟨hcoherent, hreason, fun hlive haccepts hwrite hbytes => ?_⟩
      exact closeReason_call (hcloses hlive haccepts hwrite hbytes) input
    · rw [heffects] at hmem
      cases hquiet _ hmem

/-- The end of the drain. -/
theorem Draining.finalize (h : Draining drain past g) (hbooked : g.Booked) {current : ShutdownDrain}
    (hwaits : g.shutdown = some current) (honce : current.finalizing = false) (logical : MonoTime) :
    Draining drain
      (past ++ (SessionDriver.machine.step g.driver
        (.finishShutdownDrain current.reason logical)).2)
      { g with
        driver := (SessionDriver.machine.step g.driver
          (.finishShutdownDrain current.reason logical)).1
        shutdown := some { current with finalizing := true } } := by
  obtain ⟨effects, heffects, hquiet⟩ :=
    Round.finishes_finishShutdownDrain (.start g.driver) current.reason logical
  have heffects : (SessionDriver.machine.step g.driver
      (.finishShutdownDrain current.reason logical)).2 =
      .called g.driver.core (.finishShutdownDrain current.reason logical) :: effects := heffects
  obtain ⟨hdraining, hreplies, hframes⟩ :=
    h.kept hbooked (.finishShutdownDrain current.reason logical)
  obtain ⟨finalizing, hshutdown, hcount⟩ := h.terms
  obtain rfl : current = { drain with finalizing := finalizing } :=
    Option.some.inj (hwaits.symm.trans hshutdown)
  obtain rfl : finalizing = false := honce
  refine ⟨⟨true, rfl, ?_⟩, hdraining, hreplies, hframes, fun core reason now hmem => ?_⟩
  · have hnone : effects.countP DriverEffect.finishes = 0 :=
      List.countP_eq_zero.mpr fun effect hmem => by
        rw [hquiet effect hmem]; exact Bool.false_ne_true
    rw [heffects, List.countP_append, hcount, List.countP_cons, hnone]
    rfl
  · have hcalled (reason : GenerationCloseReason) (core : SessionCore) (now : MonoTime) (hmem :
        .called core (.finishShutdownDrain reason now) ∈
          (SessionDriver.machine.step g.driver (.finishShutdownDrain drain.reason logical)).2) :
        core = g.driver.core ∧ reason = drain.reason ∧ now = logical := by
      rw [heffects] at hmem
      rcases List.mem_cons.mp hmem with heq | hmem
      · obtain ⟨hcore, hinput⟩ := DriverEffect.called.inj heq
        obtain ⟨hreason, hnow⟩ := Input.finishShutdownDrain.inj hinput
        exact ⟨hcore, hreason, hnow⟩
      · cases hquiet _ hmem
    rcases List.mem_append.mp hmem with hmem | hmem
    · obtain ⟨hcoherent, hreason, hcloses⟩ := h.reason core reason now hmem
      refine ⟨hcoherent, hreason, fun hlive haccepts hwrite hbytes => ?_⟩
      exact closeReason_call (hcloses hlive haccepts hwrite hbytes) _
    · obtain ⟨rfl, hreason, rfl⟩ := hcalled reason core now hmem
      refine ⟨hbooked.sound.coherent, hreason, fun hlive haccepts hwrite hbytes => ?_⟩
      exact Round.reason_finishShutdownDrain
        (r := .start g.driver) hbooked hlive haccepts hwrite hbytes

theorem GenerationStep.draining (h : GenerationStep calls reads g effects g') (hbooked : g.Booked)
    (hdraining : Draining drain past g) : Draining drain (past ++ effects) g' := by
  have hdrains : g.isDraining = true := by
    obtain ⟨finalizing, hshutdown, -⟩ := hdraining.terms
    unfold GenerationRuntime.isDraining
    rw [hshutdown]
    rfl
  cases h with
  | call input _ ordinary => exact hdraining.call hbooked ordinary
  | prefer preferCommand =>
    rw [List.append_nil]
    exact ⟨hdraining.terms, hdraining.draining, hdraining.replies, hdraining.frames,
      hdraining.reason⟩
  | begin _ fresh _ _ => exact (Bool.false_ne_true (fresh.symm.trans hdrains)).elim
  | giveUp fresh => exact (Bool.false_ne_true (fresh.symm.trans hdrains)).elim
  | finalize checked logical waits once _ _ => exact hdraining.finalize hbooked waits once logical

end

/-! ## Runs -/

/-- A close of the transport at once closes it. -/
theorem SessionDriver.transportClosed_shutdown {W : Type u} {κ : Type v} [WriterIngress W]
    (d : SessionDriver W κ)
    (reason : GenerationCloseReason) (failedWriteId : Option WriteId) (now : MonoTime) :
    (machine.step d (.shutdown reason failedWriteId now)).1.transportClosed = true := by
  have hunbarred (r : Round W κ) : ∃ first, (r.beginClosing reason .immediate).driver.closing =
      some ⟨first, none⟩ := by
    rw [Round.beginClosing_eq]
    unfold closeWith
    cases r.driver.closing with
    | none => exact ⟨reason, rfl⟩
    | some closing => exact ⟨closing.reason, rfl⟩
  exact Round.transportClosed_finishCloseIfReady (hunbarred _).choose_spec

namespace GenerationRound

variable {W : Type u} {κ : Type v} [WriterIngress W] {r : GenerationRound W κ}
  {drain : ShutdownDrain}

/-- At the deadline of the shutdown the transport is closed. -/
theorem transportClosed_advanceShutdown (hshutdown : r.runtime.shutdown = some drain)
    {now : MonoTime}
    (hdue : drain.shutdownDeadline ≤ now) (logical : MonoTime) :
    (r.advanceShutdown now logical).runtime.driver.transportClosed = true := by
  unfold GenerationRound.advanceShutdown
  rw [hshutdown]
  dsimp only
  rw [if_pos hdue]
  exact transportClosed_shutdown _ _ _ _

theorem shutdown_sampleCapacity (r : GenerationRound W κ) (capacity : Option (ℕ × ℕ)) :
    (r.sampleCapacity capacity).runtime.shutdown = r.runtime.shutdown := by
  cases capacity with
  | none => rfl
  | some capacity => rfl

theorem transportClosed_timer (hshutdown : r.runtime.shutdown = some drain)
    (capacity : Option (ℕ × ℕ))
    {readings : Readings} (hdue : drain.shutdownDeadline ≤ readings.checked) :
    (r.applyRound .timer capacity readings).runtime.driver.transportClosed = true :=
  transportClosed_advanceShutdown
    (r := (r.sampleCapacity capacity).call (.advanceTime readings.now))
    ((shutdown_sampleCapacity r capacity).trans hshutdown) hdue readings.logical

/-- A call of the Driver leaves the terms of a drain. -/
theorem shutdown_call (r : GenerationRound W κ) (input : DriverInput (RuntimeCompletion κ)) :
    (r.call input).runtime.shutdown = r.runtime.shutdown := rfl

/-- So does an event of the transport tasks. -/
theorem shutdown_io (r : GenerationRound W κ) (event : Option IoEvent) (capacity : Option (ℕ × ℕ))
    (readings : Readings) : (r.applyRound
      (.io event) capacity readings).runtime.shutdown = r.runtime.shutdown := by
  have hreport (r : GenerationRound W κ) (report : WriterReport) (now : MonoTime) :
      (r.applyWriteReport report now).runtime.shutdown = r.runtime.shutdown := by
    unfold GenerationRound.applyWriteReport
    split
    · exact shutdown_call _ _
    · exact shutdown_call _ _
  have hevent (r : GenerationRound W κ) (now : MonoTime) :
      (r.applyEvent event now).runtime.shutdown = r.runtime.shutdown := by
    unfold GenerationRound.applyEvent
    split
    · split
      · exact shutdown_call _ _
      · exact shutdown_call _ _
    · exact hreport _ _ _
    · exact shutdown_call _ _
    · exact (shutdown_call _ _).trans (shutdown_call _ _)
    · exact shutdown_call _ _
  exact (hevent _ _).trans (shutdown_sampleCapacity r capacity)

end GenerationRound

section

variable {W : Type u} {κ : Type v} [WriterIngress W]

/-- **The begin of the drain** in an operation: a generation that does not drain yet takes its terms
from the clock and its policy, and accepts replies only from then on. -/
theorem Draining.begin {g : GenerationRuntime W κ} (hfresh : g.isDraining = false)
    {now drainBy shutdownBy : MonoTime}
    (hdrain : now.checkedAdd g.policy.drain = some drainBy)
    (hshutdown : now.checkedAdd g.policy.shutdown = some shutdownBy)
    (reason : GenerationCloseReason)
    (logical : MonoTime) :
    Draining ⟨reason, min drainBy shutdownBy, shutdownBy, false⟩ []
      (GenerationRuntime.machine.step g (.beginGracefulClose reason now logical)).1 := by
  have hstep : (GenerationRuntime.machine.step g (.beginGracefulClose reason now logical)).1 =
      { g with
        driver := { g.driver with shutdownDraining := true }
        shutdown := some ⟨reason, min drainBy shutdownBy, shutdownBy, false⟩ } := by
    show (GenerationRound.beginGracefulClose (.start g) reason now logical).runtime = _
    have hclosed : (g.shutdown.isSome || g.driver.closeReason.isSome) = false := hfresh
    unfold GenerationRound.beginGracefulClose GenerationRound.start
    simp only [hclosed, Bool.false_eq_true, if_false, GenerationRound.call, hdrain, hshutdown,
      GenerationRound.note]
    rfl
  rw [hstep]
  exact ⟨⟨false, rfl, rfl⟩, rfl, fun _ hmem => absurd hmem List.not_mem_nil,
    fun a _ _ _ _ hsplit => absurd hsplit.symm (by simp), fun _ _ _ hmem =>
      absurd hmem List.not_mem_nil⟩

theorem GenerationRuntime.booked_after {g : GenerationRuntime W κ} (h : g.Booked)
    (inputs : List (GenerationInput κ)) :
    (machine.after g inputs).Booked :=
  machine.invariant (fun g input hg =>
    (steps_step g input).preserves (fun _ _ _ hI hstep => hstep.booked hI) hg) h inputs

/-- The terms of a drain stand over every run. -/
theorem Draining.after {g : GenerationRuntime W κ} {drain : ShutdownDrain} (h : Draining drain [] g)
    (hbooked : g.Booked) (inputs : List (GenerationInput κ)) :
    Draining drain (GenerationRuntime.machine.history g inputs)
      (GenerationRuntime.machine.after g inputs) := by
  have hrun := GenerationRuntime.machine.invariant_history (I := fun past g => g.Booked ∧
      Draining drain past g)
    (fun past g input hI => (GenerationRuntime.steps_step g input).accumulates
      (I := fun past g => g.Booked ∧ Draining drain past g)
      (fun _ _ _ _ hI hstep => ⟨hstep.booked hI.1, hstep.draining hI.1 hI.2⟩) hI)
    (s := g) ⟨hbooked, h⟩ inputs
  exact hrun.2

/-- An end of the drain in this operation is due: the operation has read the clock, and the deadline
has passed or the Driver has nothing left to wait for. -/
def EndsWhenDue (deadline : MonoTime) (before : GenerationRuntime W κ) (input : GenerationInput κ) :
    Prop :=
  ∀ core reason now, .called core (.finishShutdownDrain reason now) ∈
      (GenerationRuntime.machine.step before input).2 →
    ∃ past g checked, Steps (GenerationStep input.Calls input.Reads) before past g ∧
      g.driver.core = core ∧
      input.Reads checked ∧ (deadline ≤ checked ∨ g.driver.shutdownDrainReady = true)

theorem Draining.endsWhenDue {g : GenerationRuntime W κ} {drain : ShutdownDrain}
    {past : List (DriverEffect (RuntimeCompletion κ))} (h : Draining drain past g)
    (hbooked : g.Booked)
    (input : GenerationInput κ) : EndsWhenDue drain.drainDeadline g input := by
  intro core reason now hmem
  obtain ⟨before, after, effects, step, rest, hbefore, hstep, -, hnow, -⟩ :=
    (GenerationRuntime.steps_step g input).exists_of_mem hmem
  have hstill := hbefore.accumulates (I := fun past g => g.Booked ∧ Draining drain past g)
    (fun _ _ _ _ hI hstep => ⟨hstep.booked hI.1, hstep.draining hI.1 hI.2⟩) ⟨hbooked, h⟩
  cases hstep with
  | call other _ ordinary =>
    obtain ⟨effects, heffects, hquiet⟩ := Round.unfinishing_perform (.start before.driver) other
      fun reason now heq => by
        rw [heq] at ordinary
        cases ordinary
    have heffects : (SessionDriver.machine.step before.driver other).2 = effects := heffects
    rw [heffects] at hnow
    cases hquiet _ hnow
  | prefer _ | begin _ _ _ _ | giveUp _ => cases hnow
  | @finalize current checked logical waits _ read due =>
    obtain ⟨effects, heffects, hquiet⟩ := Round.finishes_finishShutdownDrain (.start before.driver)
      current.reason logical
    have heffects : (SessionDriver.machine.step before.driver
        (.finishShutdownDrain current.reason logical)).2 =
      .called before.driver.core (.finishShutdownDrain current.reason logical) :: effects :=
        heffects
    rw [heffects] at hnow
    obtain ⟨finalizing, hshutdown, -⟩ := hstill.2.terms
    obtain rfl : current = { drain with finalizing := finalizing } :=
      Option.some.inj (waits.symm.trans hshutdown)
    rcases List.mem_cons.mp hnow with heq | hnow
    · exact ⟨_, before, checked, hbefore, (DriverEffect.called.inj heq).1.symm, read, due⟩
    · cases hquiet _ hnow

/-- The drain is none of the checks that a reply meets. -/
theorem SessionDriver.acceptReply_undrained (d : SessionDriver W (RuntimeCompletion κ))
    (intent : ReplyIntent)
    (token : ReplyToken) (body : Option Secs2.SecsItem) (completion : RuntimeCompletion κ) :
    (machine.step d (.acceptReply intent token body completion)).2 =
      (machine.step { d with shutdownDraining := false }
        (.acceptReply intent token body completion)).2 := by
  show (Round.tryAcceptReply (.start d) intent token body completion).effects =
    (Round.tryAcceptReply (.start
      { d with shutdownDraining := false }) intent token body completion).effects
  unfold Round.tryAcceptReply
  dsimp only
  rw [show Round.replyError (Round.start { d with shutdownDraining := false }).driver intent token =
    Round.replyError (Round.start d).driver intent token from rfl]
  rw [show (Round.start { d with shutdownDraining := false }).driver.commandCharge body =
    (Round.start d).driver.commandCharge body from rfl]
  cases Round.replyError (Round.start d).driver intent token with
  | some error => rfl
  | none =>
    cases (Round.start d).driver.commandCharge body with
    | error error => rfl
    | ok charge => rfl

omit [WriterIngress W] in
/-- Once the deadline of the shutdown has passed the deadline that `step` waits for has passed. -/
theorem Draining.deadline_due {g : GenerationRuntime W κ} {drain : ShutdownDrain}
    {past : List (DriverEffect (RuntimeCompletion κ))} (h : Draining drain past g)
    (hordered : drain.drainDeadline ≤ drain.shutdownDeadline) {now : MonoTime}
    (hdue : drain.shutdownDeadline ≤ now) :
    g.deadline.any (fun deadline => deadline ≤ now) = true := by
  obtain ⟨finalizing, hshutdown, -⟩ := h.terms
  have hown : ∃ deadline, g.shutdownDeadline = some deadline ∧ deadline ≤ now := by
    refine ⟨if finalizing then drain.shutdownDeadline else drain.drainDeadline, ?_, ?_⟩
    · unfold GenerationRuntime.shutdownDeadline
      rw [hshutdown]
      rfl
    · cases finalizing with
      | false => exact hordered.trans hdue
      | true => exact hdue
  obtain ⟨deadline, heq, hpassed⟩ := hown
  unfold GenerationRuntime.deadline
  rw [heq]
  cases g.driver.core.nextDeadline with
  | none => exact decide_eq_true hpassed
  | some core => exact decide_eq_true ((min_le_right core deadline).trans hpassed)

theorem Draining.transportClosed_step {g : GenerationRuntime W κ} {drain : ShutdownDrain}
    {past : List (DriverEffect (RuntimeCompletion κ))} (h : Draining drain past g)
    (hordered : drain.drainDeadline ≤ drain.shutdownDeadline) {polls : Polls}
    (hquiet : polls.terminal = none)
    (hpoll : drain.shutdownDeadline ≤ polls.now) (capacity : Option (ℕ × ℕ)) {readings : Readings}
    (hread : drain.shutdownDeadline ≤ readings.checked) :
    (GenerationRuntime.machine.step g
      (.step polls capacity readings)).1.driver.transportClosed = true := by
  obtain ⟨finalizing, hshutdown, -⟩ := h.terms
  have hselect : g.selectInput polls = some .timer := by
    unfold GenerationRuntime.selectInput
    rw [hquiet]
    dsimp only
    rw [if_pos (h.deadline_due hordered hpoll)]
  show (GenerationRound.step
      (.start g) polls capacity readings).runtime.driver.transportClosed = true
  unfold GenerationRound.step
  split
  · next hclosed => exact hclosed
  · rw [show (GenerationRound.start g).runtime.selectInput polls = some .timer from hselect]
    have hshutdown : (GenerationRound.start g).runtime.shutdown = _ := hshutdown
    exact GenerationRound.transportClosed_timer hshutdown capacity hread

theorem Draining.transportClosed_processReadyPriority {g : GenerationRuntime W κ}
    {drain : ShutdownDrain}
    {past : List (DriverEffect (RuntimeCompletion κ))} (h : Draining drain past g)
    (terminal : Option IoEvent)
    (first : Readings) {second : Readings} (hread : drain.shutdownDeadline ≤ second.checked) :
    (GenerationRuntime.machine.step g
      (.processReadyPriority terminal first second)).1.driver.transportClosed =
      true := by
  obtain ⟨finalizing, hshutdown, -⟩ := h.terms
  have hshutdown : (GenerationRound.start g).runtime.shutdown = some { drain with finalizing :=
    finalizing } := hshutdown
  show (GenerationRound.processReadyPriority
      (.start g) terminal first second).runtime.driver.transportClosed = true
  unfold GenerationRound.processReadyPriority
  split
  · next hclosed => exact hclosed
  · dsimp only
    cases terminal with
    | some event =>
      dsimp only
      split
      · next hclosed => exact hclosed
      · exact GenerationRound.transportClosed_timer
          ((GenerationRound.shutdown_io _ _ _ _).trans hshutdown) none hread
    | none =>
      dsimp only
      split
      · next hclosed => exact hclosed
      · exact GenerationRound.transportClosed_timer hshutdown none hread

/-- No operation changes the policy. -/
theorem GenerationRuntime.policy_after (g : GenerationRuntime W κ)
    (inputs : List (GenerationInput κ)) :
    (machine.after g inputs).policy = g.policy := by
  refine machine.invariant (I := fun other : GenerationRuntime W κ => other.policy = g.policy)
    (fun other input hother => ?_) rfl inputs
  refine (steps_step other input).preserves (I := fun other => other.policy = g.policy)
    (fun _ _ _ hI hstep => ?_) hother
  cases hstep with
  | call _ _ _ | prefer _ | begin _ _ _ _ | giveUp _ | finalize _ _ _ _ _ _ => exact hI

variable (generation : ConnectionGeneration) (tokenOwner : ℕ) (config : SessionCoreConfig)
  (nextWriteId : Option UInt64) (nextSystemBytes : Option UInt32) (writer : W)
  (bounds : DriverBounds)

/-- **A graceful close keeps its terms.**  In every run of a generation the first graceful close
fixes the reason and the two deadlines, and no later operation, another graceful close among them,
changes them.  From then on only replies are accepted, and a reply meets the checks that it meets
without the drain.  Core is asked to end the drain at most once, for that reason, when the drain
deadline has passed or nothing is left to wait for; an open Core with identifiers left closes for
it, whatever the Writer answers; and all that is sent from there on is one Separate at most.  Once
the deadline of the shutdown has passed, the next round without an event of the tasks that ends them
closes the transport. -/
theorem graceful_close_keeps_its_terms (policy : RuntimePolicy)
    (earlier later : List (GenerationInput κ))
    (reason : GenerationCloseReason) (now logical drainBy shutdownBy : MonoTime)
    (hfresh : (GenerationRuntime.machine.after
      (.initial (.initial generation tokenOwner config nextWriteId
      nextSystemBytes writer bounds) policy) earlier).isDraining = false)
    (hdrain : now.checkedAdd policy.drain = some drainBy)
    (hshutdown : now.checkedAdd policy.shutdown = some shutdownBy) :
    let machine := GenerationRuntime.machine (W := W) (κ := κ)
    let before := machine.after
        (.initial (.initial generation tokenOwner config nextWriteId nextSystemBytes
      writer bounds) policy) earlier
    let begun := (machine.step before (.beginGracefulClose reason now logical)).1
    let past := machine.history begun later
    let last := machine.after begun later
    (∃ finalizing, last.shutdown = some ⟨reason, min drainBy shutdownBy, shutdownBy, finalizing⟩) ∧
    (∀ command, .accepted command ∈ past → command.kind.isReply = true) ∧
    (∀ intent token body completion,
      (SessionDriver.machine.step last.driver (.acceptReply intent token body completion)).2 =
        (SessionDriver.machine.step { last.driver with shutdownDraining := false }
          (.acceptReply intent token body completion)).2) ∧
    past.countP DriverEffect.finishes ≤ 1 ∧
    (∀ x core other time y, past = x ++ .called core (.finishShutdownDrain other time) :: y →
      other = reason ∧
      (admittedIn y = [] ∨ ∃ w systemBytes,
        admittedIn y = [(w, .control (.separateRequest controlSessionId systemBytes))]) ∧
      (core.closing = false → core.AcceptsTime time → core.nextWriteId.isSome = true →
        core.nextSystemBytes.isSome = true → last.driver.closeReason = some reason)) ∧
    (∀ a input b, later = a ++ input :: b →
      EndsWhenDue (min drainBy shutdownBy) (machine.after begun a) input) ∧
    (∀ terminal first second, shutdownBy ≤ second.checked →
      (machine.step last (.processReadyPriority terminal first
        second)).1.driver.transportClosed = true) ∧
    (∀ polls capacity readings, polls.terminal = none →
      shutdownBy ≤ polls.now → shutdownBy ≤ readings.checked →
      (machine.step last (.step polls capacity readings)).1.driver.transportClosed = true) := by
  intro machine before begun past last
  have hfirst : (GenerationRuntime.initial (κ := κ)
      (.initial generation tokenOwner config nextWriteId
      nextSystemBytes writer bounds) policy).Booked := Hsms.Booked.initial _ _ _ _ _ _ _
  have hbooked : before.Booked := GenerationRuntime.booked_after hfirst earlier
  have hpolicy : before.policy = policy := GenerationRuntime.policy_after _ earlier
  have hbegun : begun.Booked :=
    GenerationRuntime.booked_after hbooked [.beginGracefulClose reason now logical]
  have hstart : Draining ⟨reason, min drainBy shutdownBy, shutdownBy, false⟩ [] begun :=
    Draining.begin hfresh (by rw [hpolicy]; exact hdrain)
      (by rw [hpolicy]; exact hshutdown) reason logical
  have hlast : Draining ⟨reason, min drainBy shutdownBy, shutdownBy, false⟩ past last :=
    hstart.after hbegun later
  obtain ⟨finalizing, hterms, hcount⟩ := hlast.terms
  refine ⟨⟨finalizing, hterms⟩, hlast.replies, fun intent token body completion => ?_, ?_,
    fun x core other time y hsplit => ?_, fun a input b hsplit => ?_,
    fun terminal first second hread => ?_, fun polls capacity readings hquiet hpoll hread => ?_⟩
  · exact last.driver.acceptReply_undrained intent token body completion
  · rw [hcount]
    cases finalizing with
    | false => exact Nat.zero_le 1
    | true => exact le_rfl
  · have hmem : .called core (.finishShutdownDrain other time) ∈ past := by
      rw [hsplit]
      exact List.mem_append_right _ List.mem_cons_self
    obtain ⟨hcoherent, hreason, hcloses⟩ := hlast.reason core other time hmem
    refine ⟨hreason, ?_, hcloses⟩
    have hframes : admittedIn y ++ [] <+: framesOf (core.finishShutdownDrain other time).actions :=
      (hlast.frames x core other time y hsplit).frames
    rw [List.append_nil] at hframes
    have hlimit : framesOf (core.finishShutdownDrain other time).actions = [] ∨ _ :=
      SessionCore.frames_finishShutdownDrain hcoherent
    rcases hlimit with hnone | ⟨w, systemBytes, hone⟩
    · rw [hnone] at hframes
      exact Or.inl (List.prefix_nil.mp hframes)
    · rw [hone, List.prefix_cons_iff] at hframes
      rcases hframes with hnil | ⟨rest, hrest, hprefix⟩
      · exact Or.inl hnil
      · rw [List.prefix_nil.mp hprefix] at hrest
        exact Or.inr ⟨w, systemBytes, hrest⟩
  · exact (hstart.after hbegun a).endsWhenDue (GenerationRuntime.booked_after hbegun a) input
  · exact hlast.transportClosed_processReadyPriority terminal first hread
  · exact hlast.transportClosed_step (min_le_right _ _) hquiet hpoll capacity hread

end

/-- A connected generation that is stopped keeps the twenty seconds of the default policy. -/
theorem graceful_close_of_default_policy :
    let machine := GenerationRuntime.machine (W := Scenario.Sink) (κ := ℕ)
    let before := machine.after
        (.initial (.initial ⟨0⟩ 0 Scenario.config (some 0) (some 0) Scenario.Sink.mk
      ⟨4, 4, 4, 64, 64⟩) .default) [.call (.connected .zero) rfl]
    let begun := (machine.step before (.beginGracefulClose .localStop .zero .zero)).1
    let last := machine.after begun [.call (.setDeliveryCapacity 1 1) rfl]
    let deadline : MonoTime := ⟨.ofSecs 20 twentySeconds_fits⟩
    (machine.step last (.processReadyPriority none ⟨deadline, deadline, deadline⟩
      ⟨deadline, deadline, deadline⟩)).1.driver.transportClosed = true := by
  have hfresh : (GenerationRuntime.machine.after
      (GenerationRuntime.initial (κ := ℕ) (.initial ⟨0⟩ 0 Scenario.config
      (some 0) (some 0) Scenario.Sink.mk ⟨4, 4, 4, 64, 64⟩) .default)
      [.call (.connected .zero) rfl]).isDraining = false := by decide
  exact (graceful_close_keeps_its_terms (W := Scenario.Sink) (κ := ℕ) ⟨0⟩ 0 Scenario.config
    (some 0) (some 0)
    .mk ⟨4, 4, 4, 64, 64⟩ .default [.call (.connected .zero) rfl]
      [.call (.setDeliveryCapacity 1 1) rfl] .localStop
    .zero .zero ⟨.ofSecs 5 fiveSeconds_fits⟩ ⟨.ofSecs 20 twentySeconds_fits⟩ hfresh (by decide)
    (by decide)).2.2.2.2.2.2.1 none _ _ le_rfl

end Hsms
end SecsRust
