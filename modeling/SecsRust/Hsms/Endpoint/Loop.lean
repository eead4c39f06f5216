import SecsRust.Hsms.Endpoint.Runtime
import SecsRust.Hsms.Supervisor.Turns

/-!
# The steps of the endpoint loop

`HsmsRuntime::run` and `receive` are long functions with many early returns, and each claim
about an endpoint is a claim about all the ways through them.  So the ways are taken apart
once, here, and what is proved about runs of an endpoint is proved about single steps
(`EndpointStep`).

## What lies between two steps

The runtime alone does not say where the loop stands.  A stage (`EndpointStage`) is the
runtime together with what the loop has in its local variables (`LoopLocals`): the command
in the hand of `receive`, whose intent has been taken out; the commands that `pending` has
been made of, with their intents; the exit whose acknowledgements are due; and how far
`publish` has come with what the Driver has received (`Handover`).  Between two inputs the
hand is empty and no exit is due (`Rests`).

## How a turn is taken apart

A part of the loop that goes from one round to another by steps, and adds the effects of
these steps and no others, is said to lead there (`EndpointRound.Leads`).  Such parts are
composed (`Leads.trans`), so each function of the source gets one lemma: `leads_publish` for
the handing over, `leads_supervise` for an operation of the supervisor,
`handled_receiveStart` and its siblings for the branches of `receive`, `ends_serve`,
`ends_seek` and `ends_finish` for the branches of a turn.  The guards under which the source
makes an operation are kept as hypotheses of the steps (`SupervisorInput.Permitted`),
because that is where the later proofs need them: no generation is served before all is
handed over, and no slot is filled while an exit is due.

An input of the loop is then a sequence of steps (`EndpointLoop.steps_step`), and what every
step keeps holds after every run (`EndpointLoop.invariant_history`).
-/

namespace SecsRust
namespace Hsms

open Secs2

universe u v

variable {W : Type u} {κ : Type v}

/-! ## Stages -/

/-- How far the loop has come with what the Driver has received: it has handed over all, it has
served the generation since, or `publish` has found no place and is about to close. -/
inductive Handover where
  | drained
  | served
  | refused
  deriving DecidableEq

theorem Handover.drained_ne : Handover.drained ≠ .refused := nofun

theorem Handover.served_ne : Handover.served ≠ .refused := nofun

/-- The state of the handing over after an offer to the application. -/
def Handover.offered (handover : Handover) (queued : Bool) : Handover :=
  match queued with
  | true => handover
  | false => .refused

/-- What the loop has besides its runtime: the command that `receive` has taken, the commands that
`pending` has been made of, the exit whose acknowledgements are due, and the state of the handing
over. -/
structure LoopLocals (κ : Type v) where
  hand : Option (LifecycleCommand κ)
  waiting : List (LifecycleCommand κ)
  exit : Option SessionExit
  handover : Handover

/-- The loop between two of its steps.  Besides the runtime it has what the source keeps in local
variables: the command in hand, the commands that wait, the exit to report, and how far the
handing over has come. -/
structure EndpointStage (W : Type u) (κ : Type v) where
  runtime : HsmsRuntime W κ
  locals : LoopLocals κ

/-- What `publish_state` has published is what there is. -/
def HsmsRuntime.Published (runtime : HsmsRuntime W κ) : Prop :=
  runtime.observed runtime.state.sequence = runtime.state

/-- The exit as it is recorded. -/
def SessionExit.report (exit : SessionExit) : ConnectionExitReport :=
  ⟨exit.generation, exit.reason.public_, exit.cleanup = .clean⟩

namespace LifecycleIntent

/-- The call of the Driver that an intent for this generation is. -/
def Calls : LifecycleIntent → LifecycleCommand κ → ConnectionGeneration →
    DriverInput (RuntimeCompletion (LifecycleCommand κ)) → Prop
  | .reply generation intent token body, command, holder, input =>
    generation = holder ∧ input = .acceptReply intent token body (.application command)
  | .data generation message replyExpected, command, holder, input => generation = holder ∧
    input = if replyExpected then .acceptRequest message (.application command)
      else .acceptSend message (.application command)
  | .control generation intent, command, holder, input =>
    generation = holder ∧ input = .acceptControl intent (.application command)
  | _, _, _, _ => False

/-- What `receive` itself may answer. -/
def Answers (runtime : HsmsRuntime W κ) : LifecycleIntent → LifecycleResult → Prop
  | .reply _ intent token body, result =>
    ∃ error, result = .ok (.rejectedReply intent token body error)
  | .data _ message _, result => ∃ error, result = .ok (.rejectedPrimary message error)
  | .control _ _, result => ∃ error, result = .error error
  | .start, .ok receipt => runtime.Published ∧ runtime.supervisor.running = true ∧
    runtime.supervisor.faulted = false ∧ ∃ address, receipt = .started ⟨address⟩
  | .stop, .ok receipt => runtime.Published ∧ runtime.supervisor.running = false ∧
    runtime.supervisor.faulted = false ∧ runtime.supervisor.current = none ∧ receipt = .closed
  | .disconnect generation, .ok receipt => generation = none ∧ receipt = .closed
  | .start, .error _ | .stop, .error _ | .disconnect _, .error _ => True

/-- When a command is put off until the exit of the generation. -/
def Waits (runtime : HsmsRuntime W κ) : LifecycleIntent → Prop
  | .stop => runtime.supervisor.running = false ∧ runtime.occupant.isSome = true ∧
    runtime.supervisor.faulted = false
  | .disconnect generation => generation = runtime.occupant ∧ runtime.occupant.isSome = true ∧
    runtime.supervisor.faulted = false
  | _ => False

end LifecycleIntent

/-- When the loop makes an operation of the supervisor, `finish_generation` and the calls of
`receive` for a generation left out.  It serves the generation only once all is handed over. -/
def SupervisorInput.Permitted (stage : EndpointStage W κ) : SupervisorInput W (LifecycleCommand κ) →
    Prop
  | .start .. => stage.locals.exit = none ∧ stage.runtime.pending = [] ∧
      stage.locals.handover ≠ .refused
  | .connect .. | .faultSource => stage.locals.exit = none ∧
      stage.runtime.supervisor.current = none ∧
    stage.locals.handover ≠ .refused
  | .recoverStopped .. => stage.locals.exit = none ∧
    (stage.runtime.supervisor.faulted = true ∨ stage.runtime.supervisor.current = none) ∧
    stage.locals.handover ≠ .refused
  | .stepCurrent .. => stage.locals.exit = none ∧ stage.locals.handover = .drained
  | .beginStop .. | .beginDisconnect .. => stage.locals.exit = none ∧
      stage.locals.handover ≠ .refused
  | .finishGeneration .. => False
  | .turn (.driver input) => input = .takeInbound ∨ input = .takeProtocolError
  | .turn (.processReadyPriority ..) => stage.locals.handover = .drained
  | .turn (.forceClose reason _) => reason = .applicationBackpressure ∧
      stage.locals.handover = .refused

/-- The loop leaves the drain to the generation. -/
theorem SupervisorInput.Permitted.quiet {stage : EndpointStage W κ}
    {input : SupervisorInput W (LifecycleCommand κ)}
    (h : input.Permitted stage) : input.drains = false := by
  cases input with
  | turn turn =>
    cases turn with
    | driver input =>
      have hpublishes : input = .takeInbound ∨ input = .takeProtocolError := h
      rcases hpublishes with rfl | rfl
      · rfl
      · rfl
    | forceClose _ _ | processReadyPriority _ _ _ => rfl
  | start _ _ _ | connect _ _ _ _ | stepCurrent _ _ _ _ _ | beginStop _ _ | beginDisconnect _ _
  | finishGeneration _ _ | recoverStopped _ _ | faultSource => rfl

/-- What an operation of the supervisor does to the handing over. -/
def SupervisorInput.leaves (handover : Handover) : SupervisorInput W (LifecycleCommand κ) → Handover
  | .stepCurrent .. | .turn (.processReadyPriority ..) => .served
  | .turn (.forceClose ..) => .drained
  | _ => handover

/-- The slot has nothing to hand over. -/
def HsmsRuntime.Drained (runtime : HsmsRuntime W κ) : Prop :=
  ∀ current, runtime.supervisor.current = some current → current.driver.inbound = []

namespace EndpointRound

variable [WriterIngress W]

/-- The runtime after an operation of the supervisor. -/
def after (runtime : HsmsRuntime W κ) (input : SupervisorInput W (LifecycleCommand κ)) :
    HsmsRuntime W κ :=
  ((start runtime).supervise input).runtime

/-- The effects of an operation of the supervisor. -/
def during (runtime : HsmsRuntime W κ) (input : SupervisorInput W (LifecycleCommand κ)) :
    List (EndpointEffect κ) :=
  ((start runtime).supervise input).effects

end EndpointRound

open EndpointRound

/-- **The steps of the endpoint.** -/
inductive EndpointStep [WriterIngress W] : EndpointStage W κ → List (EndpointEffect κ) →
    EndpointStage W κ → Prop where
  -- the supervisor
  | supervise {s hand waiting exit handover} (input : SupervisorInput W (LifecycleCommand κ))
      (permitted : input.Permitted ⟨s, hand, waiting, exit, handover⟩)
      (empty : input.Calls .takeInbound → s.Drained) :
      EndpointStep ⟨s, hand, waiting, exit, handover⟩ (during s input)
        ⟨after s input, hand, waiting, exit, input.leaves handover⟩
  | finish {s waiting exit handover} (now : MonoTime) (cleanup : Cleanup)
      (sound : s.supervisor.faulted = false)
      (open_ : handover ≠ .refused)
      (exits : (s.supervisor.perform
        (.finishGeneration now cleanup)).2.findSome? SupervisorEffect.finishResult =
        some (.ok (some exit))) :
      EndpointStep ⟨s, none, waiting, none, handover⟩ (during s (.finishGeneration now cleanup))
        ⟨after s (.finishGeneration now cleanup), none, waiting, some exit, handover⟩
  | unfinished {s waiting handover} (now : MonoTime) (cleanup : Cleanup)
      (open_ : handover ≠ .refused)
      (stays : ∀ exit, (s.supervisor.perform (.finishGeneration now cleanup)).2.findSome?
        SupervisorEffect.finishResult ≠ some (.ok (some exit))) :
      EndpointStep ⟨s, none, waiting, none, handover⟩ (during s (.finishGeneration now cleanup))
        ⟨after s (.finishGeneration now cleanup), none, waiting, none, handover⟩
  | deliverPrimary {s hand waiting exit handover} (primary : InboundPrimary)
      (delivery : Option Delivery)
      (taken : (s.supervisor.current.bind fun current =>
        current.driver.inbound.head?) = some primary)
      (delivered : s.delivery.primary .sixtyFour primary = delivery) (open_ : handover ≠ .refused) :
      EndpointStep ⟨s, hand, waiting, exit, handover⟩
        (during s (.turn (.driver .takeInbound)) ++ [.primary primary delivery.isSome])
        ⟨{ after s (.turn (.driver .takeInbound)) with delivery := delivery.getD s.delivery }, hand,
          waiting, exit, handover.offered delivery.isSome⟩
  | deliverError {s hand waiting exit handover} (error : InboundProtocolError)
      (delivery : Option Delivery)
      (taken : (s.supervisor.current.bind fun current =>
        current.driver.protocolErrors.head?) = some error)
      (delivered : s.delivery.error error = delivery) (open_ : handover ≠ .served) :
      EndpointStep ⟨s, hand, waiting, exit, handover⟩
        (during s (.turn (.driver .takeProtocolError)) ++ [.protocolError error delivery.isSome])
        ⟨{ after s (.turn (.driver .takeProtocolError)) with delivery := delivery.getD s.delivery },
          hand, waiting, exit, handover.offered delivery.isSome⟩
  | drain {s hand waiting exit handover} (empty : s.Drained) (open_ : handover ≠ .refused) :
      EndpointStep ⟨s, hand, waiting, exit, handover⟩ [] ⟨s, hand, waiting, exit, .drained⟩
  -- `receive`
  | receive {s waiting command rest handover} (queue : s.commands.queue = command :: rest) :
      EndpointStep ⟨s, none, waiting, none, handover⟩ [.received (some command)]
        ⟨{ s with commands := s.commands.pop }, some command, waiting, none, handover⟩
  | hangUp {s waiting handover} (queue : s.commands.queue = []) :
      EndpointStep ⟨s, none, waiting, none, handover⟩ [.received none]
        ⟨{ s with commands := s.commands.pop }, none, waiting, none, handover⟩
  | quit {s waiting handover} :
      EndpointStep ⟨s, none, waiting, none, handover⟩ [] ⟨{ s with quitting := true }, none,
        waiting, none, handover⟩
  | handOver {s command waiting generation handover}
      (input : DriverInput (RuntimeCompletion (LifecycleCommand κ)))
      (sound : s.supervisor.faulted = false)
      (open_ : handover ≠ .refused) (holder : s.occupant = some generation)
      (calls : command.intent.Calls command.emptied generation input) :
      EndpointStep ⟨s, some command, waiting, none, handover⟩ (during s (.turn (.driver input)))
        ⟨after s (.turn (.driver input)), none, waiting, none, handover⟩
  | answer {s command waiting handover} (result : LifecycleResult)
      (answers : command.intent.Answers s result) :
      EndpointStep ⟨s, some command, waiting, none, handover⟩ [.completed command.emptied result]
        ⟨s, none, waiting, none, handover⟩
  | wait {s command waiting handover} (waits : command.intent.Waits s) :
      EndpointStep ⟨s, some command, waiting, none, handover⟩ []
        ⟨{ s with pending := s.pending ++ [command.emptied] }, none, waiting ++ [command],
          none, handover⟩
  | lose {s command waiting handover} :
      EndpointStep ⟨s, some command, waiting, none, handover⟩ [.abandoned command.emptied]
        ⟨s, none, waiting, none, handover⟩
  -- `publish`
  | publish {s hand waiting exit handover} (sequence : UInt64)
      (next : u64CheckedSucc s.state.sequence = some sequence) :
      EndpointStep ⟨s, hand, waiting, exit, handover⟩ [.published (s.observed sequence)]
        ⟨{ s with state := s.observed sequence }, hand, waiting, exit, handover⟩
  | settle {s hand waiting exit handover} :
      EndpointStep ⟨s, hand, waiting, exit, handover⟩
        (s.completions.map fun completion => .completed completion.command completion.result)
        ⟨{ s with completions := [] }, hand, waiting, exit, handover⟩
  -- the exit of a generation
  | record {s hand waiting exit handover} (report : SessionExit) :
      EndpointStep ⟨s, hand, waiting, exit, handover⟩ []
        ⟨{ s with lastExit := some report.report }, hand, waiting, exit, handover⟩
  | acknowledge {s waiting exit handover} (published : s.Published)
      (recorded : s.lastExit = some exit.report) :
      EndpointStep ⟨s, none, waiting, some exit, handover⟩
        (s.pending.map (.completed · (if exit.cleanup =
          .clean then .ok .closed else .error .cleanupUnproven)))
        ⟨{ s with pending := [] }, none, [], none, handover⟩
  -- the loop
  | diagnose {s hand waiting exit handover} (event : DiagnosticEvent) :
      EndpointStep ⟨s, hand, waiting, exit, handover⟩ [.diagnostic event]
        ⟨{ s with diagnostics := s.diagnostics.publish event }, hand, waiting, exit, handover⟩
  | prefer {s waiting handover} (preference : Bool) :
      EndpointStep ⟨s, none, waiting, none, handover⟩ []
        ⟨{ s with preferCommands := preference }, none, waiting, none, handover⟩
  | returns {s waiting exit handover} (result : Except EndpointError Unit) :
      EndpointStep ⟨s, none, waiting, exit, handover⟩ [.returned result] ⟨s, none, waiting,
        exit, handover⟩
  -- the runtime is dropped
  | orphan {s waiting exit handover} (snapshot : EndpointStateSnapshot)
      (faulted : snapshot.phase = .faulted) :
      EndpointStep ⟨s, none, waiting, exit, handover⟩ [.published snapshot]
        ⟨{ s with state := snapshot }, none, waiting, exit, handover⟩
  | refuse {s waiting exit command rest handover} (queue : s.commands.queue = command :: rest) :
      EndpointStep ⟨s, none, waiting, exit, handover⟩
        [.received (some command), .completed command.emptied command.stoppedResult]
        ⟨{ s with commands := s.commands.pop }, none, waiting, exit, handover⟩
  | abandon {s waiting exit handover} :
      EndpointStep ⟨s, none, waiting, exit, handover⟩ (s.pending.map .abandoned)
        ⟨{ s with commands := { s.commands with closed := true }, pending := [] }, none, [],
          none, handover⟩
  -- the application
  | apply {s waiting handover} (input : LoopInput W κ) :
      EndpointStep ⟨s, none, waiting, none, handover⟩ (EndpointLoop.apply s input).2
        ⟨(EndpointLoop.apply s input).1, none, waiting, none, handover⟩

/-! ## Rounds of the loop -/

namespace EndpointRound

/-- `r` becomes `r'` by steps, with the effects that `r'` has in addition. -/
def Leads [WriterIngress W] (r : EndpointRound W κ) (l : LoopLocals κ) (r' : EndpointRound W κ)
    (l' : LoopLocals κ) : Prop :=
  ∃ effects, r'.effects = r.effects ++ effects ∧ Steps EndpointStep ⟨r.runtime, l⟩ effects
    ⟨r'.runtime, l'⟩

variable [WriterIngress W] {r r' r'' : EndpointRound W κ} {l l' l'' : LoopLocals κ}
  {hand : Option (LifecycleCommand κ)} {waiting : List (LifecycleCommand κ)}
  {exit : Option SessionExit}

theorem Leads.refl (r : EndpointRound W κ) (l : LoopLocals κ) : r.Leads l r l :=
  ⟨[], (List.append_nil _).symm, .refl _⟩

theorem Leads.trans (h : r.Leads l r' l') (h' : r'.Leads l' r'' l'') : r.Leads l r'' l'' := by
  obtain ⟨effects, heffects, hsteps⟩ := h
  obtain ⟨effects', heffects', hsteps'⟩ := h'
  exact ⟨effects ++ effects', by rw [heffects', heffects, List.append_assoc], hsteps.trans hsteps'⟩

theorem Leads.of_step {effects : List (EndpointEffect κ)} {runtime : HsmsRuntime W κ}
    (h : EndpointStep ⟨r.runtime, l⟩ effects ⟨runtime, l'⟩) :
    r.Leads l ⟨runtime, r.effects ++ effects⟩ l' :=
  ⟨effects, rfl, .single h⟩

theorem Leads.of_quiet {runtime : HsmsRuntime W κ}
    (h : EndpointStep ⟨r.runtime, l⟩ [] ⟨runtime, l'⟩) :
    r.Leads l ⟨runtime, r.effects⟩ l' := ⟨[], (List.append_nil _).symm, .single h⟩

theorem supervise_eq (r : EndpointRound W κ) (input : SupervisorInput W (LifecycleCommand κ)) :
    r.supervise input = ⟨after r.runtime input, r.effects ++ during r.runtime input⟩ := by
  have heffects : (r.supervise input).effects = r.effects ++ during r.runtime input := by
    show r.effects ++ _ ++ _ = r.effects ++ ([] ++ _ ++ _)
    rw [List.nil_append, List.append_assoc]
    rfl
  show (⟨_, (r.supervise input).effects⟩ : EndpointRound W κ) = _
  rw [heffects]
  rfl

theorem leads_supervise (r : EndpointRound W κ) {input : SupervisorInput W (LifecycleCommand κ)}
    (h : input.Permitted ⟨r.runtime, l⟩) (hempty : input.Calls .takeInbound → r.runtime.Drained) :
    r.Leads l (r.supervise input) { l with handover := input.leaves l.handover } := by
  rw [supervise_eq]
  exact .of_step (.supervise input h hempty)

omit [WriterIngress W] in
theorem drained_of_head {runtime : HsmsRuntime W κ}
    (h : (runtime.supervisor.current.bind fun current => current.driver.inbound.head?) = none) :
    runtime.Drained := by
  intro current hcurrent
  rw [hcurrent, Option.bind_some] at h
  exact List.head?_eq_none_iff.mp h

theorem leads_publishPrimaries (turns : ℕ) (r : EndpointRound W κ) {l : LoopLocals κ}
    (hopen : l.handover ≠ .refused) : r.Leads l (r.publishPrimaries turns).1
      { l with handover := l.handover.offered !(r.publishPrimaries turns).2 } := by
  induction turns generalizing r with
  | zero => exact .refl r l
  | succ turns ih =>
    unfold publishPrimaries
    dsimp only
    split
    · next hnone => exact leads_supervise r (Or.inl rfl) fun _ => drained_of_head hnone
    · next primary htaken =>
      have hstep : EndpointStep ⟨r.runtime, l⟩ _ ⟨_, { l with
          handover := l.handover.offered
            (r.runtime.delivery.primary .sixtyFour primary).isSome }⟩ :=
        .deliverPrimary primary _ htaken rfl hopen
      split
      · next hdelivery =>
        have hdelivery : r.runtime.delivery.primary .sixtyFour primary = none := hdelivery
        rw [hdelivery] at hstep
        rw [supervise_eq]
        refine ⟨_, List.append_assoc _ _ _, .single hstep⟩
      · next delivery hdelivery =>
        have hdelivery : r.runtime.delivery.primary .sixtyFour primary = some delivery := hdelivery
        rw [hdelivery] at hstep
        refine Leads.trans ?_ (ih _)
        rw [supervise_eq]
        refine ⟨_, List.append_assoc _ _ _, .single hstep⟩

theorem leads_publishErrors (turns : ℕ) (r : EndpointRound W κ) {l : LoopLocals κ}
    (hdrained : l.handover ≠ .served) : r.Leads l (r.publishErrors turns).1
      { l with handover := l.handover.offered !(r.publishErrors turns).2 } := by
  induction turns generalizing r with
  | zero => exact .refl r l
  | succ turns ih =>
    have htake : r.Leads l (r.supervise (.turn (.driver .takeProtocolError))) l :=
      leads_supervise r (Or.inr rfl) nofun
    unfold publishErrors
    dsimp only
    split
    · exact htake
    · next error htaken =>
      have hstep : EndpointStep ⟨r.runtime, l⟩ _ ⟨_, { l with
          handover := l.handover.offered (r.runtime.delivery.error error).isSome }⟩ :=
        .deliverError error _ htaken rfl hdrained
      split
      · next hdelivery =>
        have hdelivery : r.runtime.delivery.error error = none := hdelivery
        rw [hdelivery] at hstep
        rw [supervise_eq]
        refine ⟨_, List.append_assoc _ _ _, .single hstep⟩
      · next delivery hdelivery =>
        have hdelivery : r.runtime.delivery.error error = some delivery := hdelivery
        rw [hdelivery] at hstep
        refine Leads.trans ?_ (ih _)
        rw [supervise_eq]
        refine ⟨_, List.append_assoc _ _ _, .single hstep⟩

theorem current_takeInbound (r : EndpointRound W κ) :
    (r.supervise (.turn (.driver .takeInbound))).runtime.supervisor.current =
      r.runtime.supervisor.current.map fun current =>
        { current with driver :=
          { current.driver with inbound := current.driver.inbound.tail } } := by
  show (r.runtime.supervisor.turnCurrent (.driver .takeInbound)).1.current = _
  unfold ConnectionSupervisor.turnCurrent
  cases hcurrent : r.runtime.supervisor.current with
  | none => exact hcurrent
  | some current => rfl

/-- The first loop of `publish` takes all there is, unless it fails. -/
theorem drained_publishPrimaries {turns : ℕ} {r : EndpointRound W κ}
    (hturns : ∀ current, r.runtime.supervisor.current = some current →
      current.driver.inbound.length < turns)
    (hgoes : (r.publishPrimaries turns).2 = false) :
    (r.publishPrimaries turns).1.runtime.Drained := by
  induction turns generalizing r with
  | zero => exact fun current hcurrent => absurd (hturns current hcurrent) (Nat.not_lt_zero _)
  | succ turns ih =>
    have hnext := current_takeInbound r
    unfold publishPrimaries at hgoes ⊢
    dsimp only at hgoes ⊢
    generalize r.supervise (.turn (.driver .takeInbound)) = r₁ at hnext hgoes ⊢
    split at hgoes
    · next hnone =>
      intro current hcurrent
      rw [hnext] at hcurrent
      obtain ⟨before, hbefore, rfl⟩ := Option.map_eq_some_iff.mp hcurrent
      rw [hbefore, Option.bind_some, List.head?_eq_none_iff] at hnone
      show before.driver.inbound.tail = []
      rw [hnone]
      rfl
    · next primary hsome =>
      split at hgoes
      · cases hgoes
      · refine ih (fun current hcurrent => ?_) hgoes
        have hcurrent : r₁.runtime.supervisor.current = some current := hcurrent
        rw [hnext] at hcurrent
        obtain ⟨before, hbefore, rfl⟩ := Option.map_eq_some_iff.mp hcurrent
        have hlength := hturns before hbefore
        show before.driver.inbound.tail.length < turns
        rw [hbefore, Option.bind_some] at hsome
        cases hinbound : before.driver.inbound with
        | nil => rw [hinbound] at hsome; cases hsome
        | cons first rest =>
          rw [hinbound, List.length_cons] at hlength
          exact Nat.lt_of_succ_lt_succ hlength

/-- **All that the Driver has received is handed over**, or the generation closes.  The two loops
of the source run until the queues are empty or the application has no room; in the second case
the generation is closed at once. -/
theorem leads_publishInbound (r : EndpointRound W κ) (now : MonoTime) {l : LoopLocals κ}
    (hopen : l.handover ≠ .refused) : r.Leads l (r.publishInbound now)
    { l with handover := .drained } := by
  unfold publishInbound
  split
  · next hfree =>
    have hdrain : EndpointStep ⟨r.runtime, l⟩ [] ⟨r.runtime, { l with handover := .drained }⟩ :=
      .drain (fun current hcurrent => nomatch hfree.symm.trans hcurrent) hopen
    exact .of_quiet hdrain
  · next current hcurrent =>
    have hprimaries := leads_publishPrimaries (current.driver.inbound.length + 1) r hopen
    have hdrained : (r.publishPrimaries (current.driver.inbound.length + 1)).2 = false →
        (r.publishPrimaries (current.driver.inbound.length + 1)).1.runtime.Drained :=
      drained_publishPrimaries fun other hother => by
        rw [Option.some.inj (hother.symm.trans hcurrent)]
        exact Nat.lt_succ_self _
    dsimp only
    generalize r.publishPrimaries
      (current.driver.inbound.length + 1) = primaries at hprimaries hdrained ⊢
    obtain ⟨r₁, failed⟩ := primaries
    have hclose {r : EndpointRound W κ} : r.Leads { l with handover := .refused }
        (r.supervise (.turn (.forceClose .applicationBackpressure now)))
        { l with handover := .drained } :=
      leads_supervise r ⟨rfl, rfl⟩ nofun
    cases failed with
    | true =>
      have herrors := leads_publishErrors (current.driver.protocolErrors.length + 1) r₁
        (l := { l with handover := .refused }) nofun
      have hrefused : (Handover.refused.offered
          !(r₁.publishErrors (current.driver.protocolErrors.length + 1)).2) = .refused := by
        generalize (!(r₁.publishErrors (current.driver.protocolErrors.length + 1)).2) = queued
        cases queued <;> rfl
      dsimp only at herrors
      rw [hrefused] at herrors
      rw [Bool.true_or, if_pos rfl]
      exact (hprimaries.trans herrors).trans hclose
    | false =>
      have hdrain : EndpointStep ⟨r₁.runtime, l⟩ [] ⟨r₁.runtime, { l with handover := .drained }⟩ :=
        .drain (hdrained rfl) hopen
      have herrors := leads_publishErrors (current.driver.protocolErrors.length + 1) r₁
        (l := { l with handover := .drained }) nofun
      have hall := (hprimaries.trans (.of_quiet hdrain)).trans herrors
      generalize r₁.publishErrors (current.driver.protocolErrors.length + 1) = errors at hall ⊢
      obtain ⟨r₂, failed⟩ := errors
      cases failed with
      | true => exact hall.trans hclose
      | false => exact hall

theorem leads_publishState (r : EndpointRound W κ) (l : LoopLocals κ) :
    r.Leads l r.publishState.1 l := by
  unfold publishState
  dsimp only
  split
  · exact .refl r l
  · split
    · exact .refl r l
    · next sequence hnext => exact .of_step (.publish sequence hnext)

omit [WriterIngress W] in
/-- A state that has been published is the one there is. -/
theorem published_publishState {r : EndpointRound W κ} (h : r.publishState.2 = .goes) :
    r.publishState.1.runtime.Published := by
  unfold publishState at h ⊢
  dsimp only at h ⊢
  by_cases hsame : r.runtime.observed r.runtime.state.sequence = r.runtime.state
  · rw [if_pos hsame]
    exact hsame
  · rw [if_neg hsame] at h ⊢
    split at h
    · cases h
    · rfl

theorem leads_publish (r : EndpointRound W κ) (now : MonoTime) {l : LoopLocals κ}
    (hopen : l.handover ≠ .refused) :
    r.Leads l (r.publish now).1 { l with handover := .drained } := by
  have hstate := (leads_publishInbound r now hopen).trans (leads_publishState _ _)
  unfold publish
  split
  · next r' hgoes =>
    rw [hgoes] at hstate
    refine hstate.trans ?_
    exact ⟨_, rfl, .single .settle⟩
  · next r' flow _ hfails =>
    rw [hfails] at hstate
    exact hstate

theorem published_publish (r : EndpointRound W κ) (now : MonoTime) (h : (r.publish now).2 = .goes) :
    (r.publish now).1.runtime.Published := by
  have hstate : (r.publishInbound now).publishState.2 = .goes →
      (r.publishInbound now).publishState.1.runtime.Published := published_publishState
  unfold publish at h ⊢
  generalize (r.publishInbound now).publishState = answer at h hstate ⊢
  obtain ⟨r', flow⟩ := answer
  cases flow with
  | goes => exact hstate rfl
  | fails _ | dropped => cases h

/-- What the handing over of inbound messages leaves alone.  Everything but the supervisor, which
only loses what was queued, and the channels to the application. -/
structure Kept (s s' : HsmsRuntime W κ) : Prop where
  running : s'.supervisor.running = s.supervisor.running
  faulted : s'.supervisor.faulted = s.supervisor.faulted
  free : s.supervisor.current = none → s'.supervisor.current = none
  lastExit : s'.lastExit = s.lastExit

namespace Kept

variable {s s' s'' : HsmsRuntime W κ}

omit [WriterIngress W] in
theorem refl (s : HsmsRuntime W κ) : Kept s s := ⟨rfl, rfl, id, rfl⟩

omit [WriterIngress W] in
theorem trans (h : Kept s s') (h' : Kept s' s'') : Kept s s'' :=
  ⟨h'.running.trans h.running, h'.faulted.trans h.faulted, fun hfree => h'.free (h.free hfree),
    h'.lastExit.trans h.lastExit⟩

theorem turn (r : EndpointRound W κ) (turn : GenerationTurn (LifecycleCommand κ)) :
    Kept r.runtime (r.supervise (.turn turn)).runtime := by
  have hkept : ∀ s : ConnectionSupervisor W (LifecycleCommand κ),
      (s.turnCurrent turn).1.running = s.running ∧
      (s.turnCurrent turn).1.faulted = s.faulted ∧
      (s.current = none → (s.turnCurrent turn).1.current = none) := by
    intro s
    unfold ConnectionSupervisor.turnCurrent
    cases hcurrent : s.current with
    | none => exact ⟨rfl, rfl, fun _ => hcurrent⟩
    | some g => exact ⟨rfl, rfl, fun hfree => nomatch hfree⟩
  obtain ⟨hrunning, hfaulted, hfree⟩ := hkept r.runtime.supervisor
  exact ⟨hrunning, hfaulted, hfree, rfl⟩

theorem publishPrimaries (turns : ℕ) (r : EndpointRound W κ) :
    Kept r.runtime (r.publishPrimaries turns).1.runtime := by
  induction turns generalizing r with
  | zero => exact refl _
  | succ turns ih =>
    have htake := turn r (.driver .takeInbound)
    unfold EndpointRound.publishPrimaries
    dsimp only
    split
    · exact htake
    · split
      · exact htake
      · refine Kept.trans ?_ (ih _)
        exact htake.trans ⟨rfl, rfl, id, rfl⟩

theorem publishErrors (turns : ℕ) (r : EndpointRound W κ) :
    Kept r.runtime (r.publishErrors turns).1.runtime := by
  induction turns generalizing r with
  | zero => exact refl _
  | succ turns ih =>
    have htake := turn r (.driver .takeProtocolError)
    unfold EndpointRound.publishErrors
    dsimp only
    split
    · exact htake
    · split
      · exact htake
      · refine Kept.trans ?_ (ih _)
        exact htake.trans ⟨rfl, rfl, id, rfl⟩

theorem publish (r : EndpointRound W κ) (now : MonoTime) :
    Kept r.runtime (r.publish now).1.runtime := by
  have hinbound : Kept r.runtime (r.publishInbound now).runtime := by
    unfold publishInbound
    split
    · exact refl _
    · next current _ =>
      have herrors := (publishPrimaries (current.driver.inbound.length + 1) r).trans
        (publishErrors (current.driver.protocolErrors.length + 1) _)
      dsimp only
      split
      · exact herrors.trans (turn _ _)
      · exact herrors
  have hstate (r : EndpointRound W κ) : Kept r.runtime r.publishState.1.runtime := by
    unfold publishState
    dsimp only
    split
    · exact refl _
    · split
      · exact refl _
      · exact ⟨rfl, rfl, id, rfl⟩
  have hpublished := hinbound.trans (hstate _)
  unfold EndpointRound.publish
  split
  · next r' hgoes =>
    rw [hgoes] at hpublished
    exact hpublished.trans ⟨rfl, rfl, id, rfl⟩
  · next r' flow _ hfails =>
    rw [hfails] at hpublished
    exact hpublished

end Kept

/-! ## Commands -/

/-- Local variables with a command in the hand. -/
theorem leads_complete (r : EndpointRound W κ) {command : LifecycleCommand κ}
    {waiting : List (LifecycleCommand κ)}
    {handover : Handover} {result : LifecycleResult} (h : command.intent.Answers r.runtime result) :
    r.Leads ⟨some command, waiting, none, handover⟩ (r.complete command.emptied result)
      ⟨none, waiting, none, handover⟩ :=
  .of_step (.answer result h)

theorem leads_publishThenComplete (r : EndpointRound W κ) {command : LifecycleCommand κ}
    {waiting : List (LifecycleCommand κ)} {handover : Handover} {result : LifecycleResult}
    (now : MonoTime)
    (hopen : handover ≠ .refused) (h : ∀ s, Kept r.runtime s → s.Published →
      command.intent.Answers s result) :
    r.Leads ⟨some command, waiting, none, handover⟩
      (r.publishThenComplete command.emptied result now).1
      ⟨none, waiting, none, .drained⟩ := by
  have hpublish := leads_publish r now (l := ⟨some command, waiting, none, handover⟩) hopen
  have hkept := Kept.publish r now
  have hpublished := published_publish r now
  unfold publishThenComplete
  split
  · next r' hgoes =>
    rw [hgoes] at hpublish hkept hpublished
    exact hpublish.trans (leads_complete r' (h _ hkept (hpublished rfl)))
  · next r' flow _ hfails =>
    rw [hfails] at hpublish
    exact hpublish.trans (.of_step .lose)

/-- `receive` is done with the command in its hand: it has been answered, put off, handed over or
lost. -/
def Handled (r : EndpointRound W κ) (command : LifecycleCommand κ) (r' : EndpointRound W κ) :
    Prop :=
  ∀ waiting handover, handover ≠ .refused → ∃ waiting' handover', handover' ≠ .refused ∧
    r.Leads ⟨some command, waiting, none, handover⟩ r' ⟨none, waiting', none, handover'⟩

/-- What happens while the command is in the hand. -/
def Meanwhile (r : EndpointRound W κ) (command : LifecycleCommand κ) (r' : EndpointRound W κ) :
    Prop :=
  ∀ waiting handover, handover ≠ .refused →
    r.Leads ⟨some command, waiting, none, handover⟩ r' ⟨some command, waiting, none, handover⟩

variable {command : LifecycleCommand κ} {reception : Reception}

theorem handled_complete {result : LifecycleResult} (h : command.intent.Answers r.runtime result) :
    Handled r command (r.complete command.emptied result) :=
  fun waiting handover hopen => ⟨waiting, handover, hopen, leads_complete r h⟩

theorem Handled.after (h : Handled r' command r'') (hleads : Meanwhile r command r') :
    Handled r command r'' := by
  intro waiting handover hopen
  obtain ⟨waiting', handover', hopen', hrest⟩ := h waiting handover hopen
  exact ⟨waiting', handover', hopen', (hleads waiting handover hopen).trans hrest⟩

theorem handled_lost : Handled r command (r.emit (.abandoned command.emptied)) :=
  fun waiting handover hopen => ⟨waiting, handover, hopen, .of_step .lose⟩

theorem handled_publishThenComplete {result : LifecycleResult} (now : MonoTime)
    (h : ∀ s, Kept r.runtime s → s.Published → command.intent.Answers s result) :
    Handled r command (r.publishThenComplete command.emptied result now).1 :=
  fun waiting _ hopen => ⟨waiting, .drained, nofun, leads_publishThenComplete r now hopen h⟩

theorem handled_receiveStart (hintent : command.intent = .start) :
    Handled r command (r.receiveStart command.emptied reception).1 := by
  have herror (r : EndpointRound W κ) (error : EndpointError) : ∀ s, Kept r.runtime s →
      s.Published →
      command.intent.Answers s (.error error) := by
    intro s _ _
    rw [hintent]
    trivial
  unfold receiveStart
  split
  · exact handled_publishThenComplete _ (herror r _)
  · next hidle =>
    have hidle : r.runtime.pending = [] := by simpa using hidle
    dsimp only
    generalize hinput : SupervisorInput.start reception.validated reception.prepared
      reception.bound = input
    have hstart : Meanwhile r command (r.supervise input) := by
      subst hinput
      exact fun waiting handover hopen => leads_supervise r ⟨rfl, hidle, hopen⟩ nofun
    split
    · exact handled_lost.after hstart
    · exact (handled_publishThenComplete _ (herror _ _)).after hstart
    · next hresult =>
      refine (handled_publishThenComplete _ fun s hkept hpublished => ?_).after hstart
      obtain ⟨effect, hmem, heffect⟩ := List.exists_of_findSome?_eq_some hresult
      have hok : (r.supervise input).runtime.supervisor.running = true ∧
          (r.supervise input).runtime.supervisor.faulted = false := by
        subst hinput
        cases effect <;> cases heffect
        exact ConnectionSupervisor.started_ok hmem
      rw [hintent]
      exact ⟨hpublished, hkept.running.trans hok.1, hkept.faulted.trans hok.2, _, rfl⟩

theorem handled_receiveDisconnect {generation : Option ConnectionGeneration}
    (hintent : command.intent = .disconnect generation) :
    Handled r command (r.receiveDisconnect command.emptied generation reception) := by
  have herror (error : EndpointError) : command.intent.Answers r.runtime (.error error) := by
    rw [hintent]
    trivial
  unfold receiveDisconnect
  split
  · next hnone =>
    refine handled_complete ?_
    rw [hintent]
    exact ⟨by simpa using hnone, rfl⟩
  · split
    · exact handled_complete (herror _)
    · split
      · exact handled_complete (herror _)
      · next hsome hholder hsound =>
        have hholder : generation = r.runtime.occupant := by simpa using hholder
        rw [Option.isNone_iff_eq_none, hholder] at hsome
        intro waiting handover hopen
        refine ⟨waiting ++ [command], handover, hopen, ?_⟩
        have hbegin : r.Leads ⟨some command, waiting, none, handover⟩
            (r.supervise (.beginDisconnect reception.closing reception.logical))
            ⟨some command, waiting, none, handover⟩ := leads_supervise r ⟨rfl, hopen⟩ nofun
        refine hbegin.trans (.of_quiet (.wait ?_))
        obtain ⟨g, hcurrent, hg⟩ :=
          Option.map_eq_some_iff.mp (Option.ne_none_iff_exists'.mp hsome).choose_spec
        obtain ⟨⟨g', hcurrent', hsame⟩, hfaulted⟩ := ConnectionSupervisor.holds_perform hcurrent
          (.beginDisconnect reception.closing reception.logical) rfl rfl
        have hoccupant : (r.supervise
            (.beginDisconnect reception.closing reception.logical)).runtime.occupant =
            r.runtime.occupant := by
          unfold HsmsRuntime.occupant
          rw [hcurrent, Option.map_some, ← hsame, ← Option.map_some]
          exact congrArg _ hcurrent'
        rw [hintent]
        refine ⟨hholder.trans hoccupant.symm, ?_, hfaulted.trans (by simpa using hsound)⟩
        rw [hoccupant]
        exact Option.isSome_iff_ne_none.mpr hsome

theorem handled_receiveStop (hintent : command.intent = .stop) :
    Handled r command (r.receiveStop command.emptied reception).1 := by
  have herror (r : EndpointRound W κ) (error : EndpointError) : ∀ s, Kept r.runtime s →
      s.Published →
      command.intent.Answers s (.error error) := by
    intro s _ _
    rw [hintent]
    trivial
  have hclosed {r : EndpointRound W κ} (hrunning : r.runtime.supervisor.running = false)
      (hfree : r.runtime.supervisor.current = none)
      (hsound : r.runtime.supervisor.faulted = false) :
      ∀ s, Kept r.runtime s → s.Published → command.intent.Answers s (.ok .closed) := by
    intro s hkept hpublished
    rw [hintent]
    exact ⟨hpublished, hkept.running.trans hrunning, hkept.faulted.trans hsound, hkept.free hfree,
      rfl⟩
  have hstop : Meanwhile r command (r.supervise (.beginStop reception.closing reception.logical)) :=
    fun waiting handover hopen => leads_supervise r ⟨rfl, hopen⟩ nofun
  obtain ⟨hstopped, hfreed⟩ :=
    r.runtime.supervisor.beginStop_stops reception.closing reception.logical
  have hkeeps : ∀ g, r.runtime.supervisor.current = some g →
      (∃ g', (r.runtime.supervisor.beginStop reception.closing reception.logical).1.current =
        some g' ∧
        g'.generation = g.generation) ∧
      (r.runtime.supervisor.beginStop reception.closing reception.logical).1.faulted =
        r.runtime.supervisor.faulted := fun g hcurrent =>
    ConnectionSupervisor.holds_perform hcurrent
      (.beginStop reception.closing reception.logical) rfl rfl
  unfold receiveStop
  dsimp only
  generalize hbegun : r.supervise (.beginStop reception.closing reception.logical) = r₁ at hstop ⊢
  have hsupervisor : r₁.runtime.supervisor =
      (r.runtime.supervisor.beginStop reception.closing reception.logical).1 := by
        rw [← hbegun]; rfl
  rw [← hsupervisor] at hstopped hfreed
  split
  · next hrecovering =>
    generalize hinput : SupervisorInput.recoverStopped reception.recovered reception.cleanup = input
    have hrecover : Meanwhile r command (r₁.supervise input) := by
      subst hinput
      refine fun waiting handover hopen =>
        (hstop waiting handover hopen).trans (leads_supervise r₁ ⟨rfl, ?_, hopen⟩ nofun)
      cases hcurrent : r.runtime.supervisor.current with
      | none => exact Or.inr (hfreed hcurrent).1
      | some g =>
        refine Or.inl ?_
        show r₁.runtime.supervisor.faulted = true
        rw [hsupervisor]
        exact (hkeeps g hcurrent).2.trans hrecovering
    have hrecovered : ∀ exit,
        (r₁.runtime.supervisor.perform input).2.findSome? SupervisorEffect.recoverResult =
        some (.ok exit) → (∀ e, exit = some e → e.cleanup = .clean) →
        (r₁.supervise input).runtime.supervisor.running = false ∧
          (r₁.supervise input).runtime.supervisor.current = none ∧
          (r₁.supervise input).runtime.supervisor.faulted = false := by
      intro exit hresult hclean
      obtain ⟨effect, hmem, heffect⟩ := List.exists_of_findSome?_eq_some hresult
      subst hinput
      cases effect <;> cases heffect
      exact ConnectionSupervisor.recovered_ok hmem hclean
    split
    · exact handled_lost.after hrecover
    · exact (handled_publishThenComplete _ (herror _ _)).after hrecover
    · next hresult =>
      obtain ⟨hrunning, hfree, hsound⟩ := hrecovered none hresult nofun
      exact (handled_publishThenComplete _ (hclosed hrunning hfree hsound)).after hrecover
    · next exit hresult =>
      have hrecord : Meanwhile r command ((r₁.supervise input).recordExit exit) :=
        fun waiting handover hopen => (hrecover waiting handover hopen).trans
          (.of_quiet (.record exit))
      by_cases hclean : exit.cleanup = .clean
      · rw [if_pos hclean]
        obtain ⟨hrunning, hfree, hsound⟩ := hrecovered (some exit) hresult fun e heq => by
          rw [← Option.some.inj heq]
          exact hclean
        exact (handled_publishThenComplete _
          (hclosed (r := (r₁.supervise input).recordExit exit) hrunning hfree hsound)).after hrecord
      · rw [if_neg hclean]
        exact (handled_publishThenComplete _ (herror _ _)).after hrecord
  · next hsound =>
    rw [Bool.not_eq_true] at hsound
    split
    · next hfree =>
      rw [Option.isNone_iff_eq_none] at hfree
      have hbefore : r.runtime.supervisor.current = none := by
        cases hcurrent : r.runtime.supervisor.current with
        | none => rfl
        | some g =>
          obtain ⟨⟨g', hcurrent', -⟩, -⟩ := hkeeps g hcurrent
          rw [hsupervisor] at hfree
          exact nomatch hfree.symm.trans hcurrent'
      exact (handled_publishThenComplete _ (hclosed hstopped hfree (hfreed hbefore).2)).after hstop
    · next hheld =>
      intro waiting handover hopen
      refine ⟨waiting ++ [command], handover, hopen,
        (hstop waiting handover hopen).trans (.of_quiet (.wait ?_))⟩
      obtain ⟨g, hcurrent⟩ : ∃ g, r.runtime.supervisor.current = some g := by
        cases hcurrent : r.runtime.supervisor.current with
        | none => exact absurd (by rw [(hfreed hcurrent).1]; rfl) hheld
        | some g => exact ⟨g, rfl⟩
      obtain ⟨⟨g', hcurrent', -⟩, hfaulted⟩ := hkeeps g hcurrent
      rw [hintent]
      refine ⟨hstopped, ?_, ?_⟩
      · show (Option.map _ r₁.runtime.supervisor.current).isSome = true
        rw [hsupervisor, hcurrent']
        rfl
      · rw [hsupervisor]
        exact hfaulted.trans hsound

omit [WriterIngress W] in
theorem of_routeError_eq_none {generation : ConnectionGeneration}
    (h : r.routeError generation = none) :
    r.runtime.supervisor.faulted = false ∧ r.runtime.occupant = some generation := by
  unfold routeError at h
  split at h
  · cases h
  · next hsound =>
    split at h
    · cases h
    · next hholder => exact ⟨by simpa using hsound, by simpa using hholder⟩

theorem handled_handOver {generation : ConnectionGeneration}
    (hroute : r.routeError generation = none)
    {input : DriverInput (RuntimeCompletion (LifecycleCommand κ))}
    (hcalls : command.intent.Calls command.emptied generation input) :
    Handled r command (r.supervise (.turn (.driver input))) := by
  obtain ⟨hsound, hholder⟩ := of_routeError_eq_none hroute
  intro waiting handover hopen
  rw [supervise_eq]
  exact ⟨waiting, handover, hopen, .of_step (.handOver input hsound hopen hholder hcalls)⟩

theorem handled_dispatch : Handled r command (r.dispatch command reception).1 := by
  unfold dispatch
  split
  · next generation intent token body hintent =>
    split
    · refine handled_complete ?_
      rw [hintent]
      exact ⟨_, rfl⟩
    · next hroute =>
      refine handled_handOver hroute ?_
      rw [hintent]
      exact ⟨rfl, rfl⟩
  · next generation message replyExpected hintent =>
    split
    · refine handled_complete ?_
      rw [hintent]
      exact ⟨_, rfl⟩
    · next hroute =>
      refine handled_handOver hroute ?_
      rw [hintent]
      exact ⟨rfl, rfl⟩
  · next generation intent hintent =>
    split
    · refine handled_complete ?_
      rw [hintent]
      exact ⟨_, rfl⟩
    · next hroute =>
      refine handled_handOver hroute ?_
      rw [hintent]
      exact ⟨rfl, rfl⟩
  · next hintent => exact handled_receiveStart hintent
  · next hintent => exact handled_receiveStop hintent
  · next generation hintent => exact handled_receiveDisconnect hintent

theorem leads_processReadyPriority (r : EndpointRound W κ) {l : LoopLocals κ}
    (hdrained : l.handover = .drained)
    (terminal : Option IoEvent) (first second : Readings) :
    r.Leads l (r.supervise (.turn (.processReadyPriority terminal first second)))
      { l with handover := .served } := leads_supervise r hdrained nofun

/-- What comes out of the channel is handled. -/
theorem leads_receive (reception : Reception) {command : Option (LifecycleCommand κ)}
    (hready : r.runtime.commands.recv = some command) (waiting : List (LifecycleCommand κ)) :
    ∃ waiting' handover, handover ≠ .refused ∧ r.Leads ⟨none, waiting, none, .drained⟩
      ((r.update fun runtime => { runtime with commands := runtime.commands.pop }).receive
        command reception).1
      ⟨none, waiting', none, handover⟩ := by
  unfold receive
  dsimp only
  cases command with
  | some command =>
    obtain ⟨rest, hqueue⟩ : ∃ rest, r.runtime.commands.queue = command :: rest := by
      unfold CommandChannel.recv at hready
      split at hready
      · next other rest hqueue =>
        obtain rfl : other = command := Option.some.inj (Option.some.inj hready)
        exact ⟨rest, hqueue⟩
      · split at hready
        · cases hready
        · cases hready
    have hreceived : r.Leads ⟨none, waiting, none, .drained⟩
        ((r.update fun runtime => { runtime with commands := runtime.commands.pop }).emit
          (.received (some command)))
        ⟨some command, waiting, none, .drained⟩ := .of_step (.receive hqueue)
    have hserved := hreceived.trans
      (leads_processReadyPriority
        (W := W) _ rfl reception.terminal reception.first reception.second)
    generalize EndpointRound.supervise (W := W) _ _ = r₁ at hserved ⊢
    have hhandled : Handled r₁ command (r₁.dispatch command reception).1 := handled_dispatch
    obtain ⟨waiting', handover, hopen, hrest⟩ := hhandled waiting .served nofun
    exact ⟨waiting', handover, hopen, hserved.trans hrest⟩
  | none =>
    have hqueue : r.runtime.commands.queue = [] := by
      unfold CommandChannel.recv at hready
      split at hready
      · cases hready
      · assumption
    have hreceived : r.Leads ⟨none, waiting, none, .drained⟩
        ((r.update fun runtime => { runtime with commands := runtime.commands.pop }).emit
          (.received none))
        ⟨none, waiting, none, .drained⟩ := .of_step (.hangUp hqueue)
    have hserved := hreceived.trans
      (leads_processReadyPriority
        (W := W) _ rfl reception.terminal reception.first reception.second)
    generalize EndpointRound.supervise (W := W) _ _ = r₁ at hserved ⊢
    have hquit : r₁.Leads ⟨none, waiting, none, .served⟩
        (r₁.update fun runtime => { runtime with quitting := true }) ⟨none, waiting,
          none, .served⟩ :=
      .of_quiet .quit
    exact ⟨waiting, .served, nofun,
      (hserved.trans hquit).trans (leads_supervise _ ⟨rfl, nofun⟩ nofun)⟩

end EndpointRound

namespace EndpointLoop

variable [WriterIngress W] {r r' : EndpointRound W κ} {l l' : LoopLocals κ}
  {waiting : List (LifecycleCommand κ)}
  {answers : LoopAnswers W}

/-- The rest of a turn, which leaves nothing in the local variables but the commands that wait.
Where it waits, all has been handed over. -/
def Ends (r : EndpointRound W κ) (l : LoopLocals κ)
    (answer : EndpointLoop W κ × List (EndpointEffect κ)) : Prop :=
  ∃ effects waiting handover, answer.2 = r.effects ++ effects ∧ handover ≠ .refused ∧
    (answer.1.stage = .waiting → handover = .drained) ∧
      Steps EndpointStep ⟨r.runtime, l⟩ effects ⟨answer.1.runtime, none, waiting, none, handover⟩

theorem Ends.after {answer : EndpointLoop W κ × List (EndpointEffect κ)} (h : Ends r' l' answer)
    (hleads : r.Leads l r' l') : Ends r l answer := by
  obtain ⟨effects, heffects, hsteps⟩ := hleads
  obtain ⟨effects', waiting, handover, heffects', hopen, hwaits, hsteps'⟩ := h
  exact ⟨effects ++ effects', waiting, handover, by rw [heffects', heffects, List.append_assoc],
    hopen, hwaits, hsteps.trans hsteps'⟩

/-- The turn waits here. -/
theorem ends_waiting (r : EndpointRound W κ) : Ends r ⟨none, waiting, none, .drained⟩
    (⟨r.runtime, .waiting⟩, r.effects) :=
  ⟨[], waiting, .drained, (List.append_nil _).symm, nofun, fun _ => rfl, .refl _⟩

/-- The turn ends here, and the next one begins. -/
theorem ends_top (r : EndpointRound W κ) {handover : Handover} (hopen : handover ≠ .refused) :
    Ends r ⟨none, waiting, none, handover⟩ (⟨r.runtime, .top⟩, r.effects) :=
  ⟨[], waiting, handover, (List.append_nil _).symm, hopen, nofun, .refl _⟩

/-- The commands that are still in the channel are refused. -/
theorem steps_refuse (s : HsmsRuntime W κ) (waiting : List (LifecycleCommand κ))
    (exit : Option SessionExit)
    (handover : Handover) : Steps EndpointStep ⟨s, none, waiting, exit, handover⟩
      (s.commands.queue.flatMap fun command =>
        [.received (some command), .completed command.emptied command.stoppedResult])
      ⟨{ s with commands := { s.commands with queue := [] } }, none, waiting, exit, handover⟩ := by
  generalize hqueue : s.commands.queue = queue
  induction queue generalizing s with
  | nil =>
    have hsame : { s with commands := { s.commands with queue := [] } } = s := by rw [← hqueue]
    rw [hsame]
    exact .refl _
  | cons command rest ih =>
    have hrest := ih { s with commands := s.commands.pop } (by
      show s.commands.queue.tail = rest
      rw [hqueue]
      rfl)
    exact .head (.refuse hqueue) hrest

theorem ends_dropped (r : EndpointRound W κ) (waiting : List (LifecycleCommand κ))
    (exit : Option SessionExit)
    {handover : Handover} (hopen : handover ≠ .refused) : Ends r ⟨none, waiting, exit, handover⟩
    (dropped r) := by
  have htail (r : EndpointRound W κ) : Ends r ⟨none, waiting, exit, handover⟩
      (⟨{ r.runtime with
        commands := { r.runtime.commands with queue := [], closed := true }
        completions := []
        pending := [] }, .ended⟩,
      r.effects ++ (r.runtime.commands.queue.flatMap fun command =>
          [.received (some command), .completed command.emptied command.stoppedResult]) ++
        (r.runtime.completions.map fun completion =>
          .completed completion.command completion.result) ++
        r.runtime.pending.map .abandoned) := by
    have hsteps := ((steps_refuse r.runtime waiting exit handover).trans (.single .settle)).trans
        (.single .abandon)
    refine ⟨_, [], handover, ?_, hopen, nofun, hsteps⟩
    rw [List.append_assoc, List.append_assoc, List.append_assoc]
  unfold dropped
  dsimp only
  split
  · exact (htail _).after (.of_step (.orphan _ rfl))
  · exact htail r

theorem ends_exit (r : EndpointRound W κ) (waiting : List (LifecycleCommand κ))
    (exit : Option SessionExit)
    {handover : Handover} (hopen : handover ≠ .refused) (result : Except EndpointError Unit) :
    Ends r ⟨none, waiting, exit, handover⟩ (EndpointLoop.exit r result) :=
  (ends_dropped _ waiting exit hopen).after (.of_step (.returns result))

/-- The rest of a turn after an operation. -/
theorem ends_goOn {answer : EndpointRound W κ × Flow} {handover : Handover}
    (hopen : handover ≠ .refused)
    (h : r.Leads l answer.1 ⟨none, waiting, none, handover⟩) : Ends r l (goOn answer) := by
  obtain ⟨r', flow⟩ := answer
  cases flow with
  | goes => exact (ends_top r' hopen).after h
  | fails error => exact (ends_exit r' waiting none hopen _).after h
  | dropped => exact (ends_dropped r' waiting none hopen).after h

theorem ends_take {command : Option (LifecycleCommand κ)}
    (hready : r.runtime.commands.recv = some command)
    (waiting : List (LifecycleCommand κ)) : Ends r ⟨none, waiting, none, .drained⟩
    (take r command answers) := by
  obtain ⟨waiting', handover, hopen, hleads⟩ := leads_receive answers.reception hready waiting
  exact ends_goOn hopen hleads

/-- The end of a generation. -/
theorem ends_finish (hsound : r.runtime.supervisor.faulted = false)
    (waiting : List (LifecycleCommand κ)) :
    Ends r ⟨none, waiting, none, .drained⟩ (finish r answers) := by
  unfold finish
  dsimp only
  generalize hresult : (r.runtime.supervisor.perform
    (.finishGeneration answers.finished answers.cleanup)).2.findSome?
    SupervisorEffect.finishResult = result
  have hstays (h : ∀ exit, result ≠ some (.ok (some exit))) :
      r.Leads ⟨none, waiting, none, .drained⟩
      (r.supervise (.finishGeneration answers.finished answers.cleanup)) ⟨none, waiting, none,
        .drained⟩ := by
    rw [supervise_eq]
    refine .of_step (.unfinished _ _ nofun ?_)
    rw [hresult]
    exact h
  split
  · exact (ends_dropped _ waiting none Handover.drained_ne).after (hstays nofun)
  · exact (ends_dropped _ waiting none Handover.drained_ne).after (hstays nofun)
  · exact (ends_exit _ waiting none Handover.drained_ne _).after (hstays nofun)
  · next closed =>
    have hfinish : r.Leads ⟨none, waiting, none, .drained⟩
        (r.supervise (.finishGeneration answers.finished answers.cleanup))
        ⟨none, waiting, some closed, .drained⟩ := by
      rw [supervise_eq]
      exact .of_step (.finish _ _ hsound nofun hresult)
    have hrecord : r.Leads ⟨none, waiting, none, .drained⟩
        ((r.supervise (.finishGeneration answers.finished answers.cleanup)).recordExit closed)
        ⟨none, waiting, some closed, .drained⟩ := hfinish.trans (.of_quiet (.record closed))
    generalize hrecorded : (r.supervise
      (.finishGeneration answers.finished answers.cleanup)).recordExit closed = r₁
      at hrecord
    have hlast : r₁.runtime.lastExit = some closed.report := by rw [← hrecorded]; rfl
    have hpublish := hrecord.trans (leads_publish r₁ answers.published Handover.drained_ne)
    have hkept := Kept.publish r₁ answers.published
    have hpublished := published_publish r₁ answers.published
    generalize r₁.publish answers.published = answer at hpublish hkept hpublished
    obtain ⟨r₂, flow⟩ := answer
    cases flow with
    | goes =>
      have hdiagnose : r₂.Leads ⟨none, waiting, some closed, .drained⟩
          (r₂.diagnose (.connectionClosed
          closed.generation closed.reason.public_ (closed.cleanup = .clean : Bool)))
          ⟨none, waiting, some closed, .drained⟩ := .of_step (.diagnose _)
      refine Ends.after ?_ (hpublish.trans hdiagnose)
      have hacknowledge : EndpointStep
          ⟨(r₂.diagnose (.connectionClosed closed.generation closed.reason.public_
          (closed.cleanup = .clean : Bool))).runtime, none, waiting, some closed, .drained⟩ _
          ⟨_, none, [], none, .drained⟩ :=
        .acknowledge (hpublished rfl) (hkept.lastExit.trans hlast)
      refine ⟨_, [], .drained, ?_, nofun, nofun, .single hacknowledge⟩
      by_cases hclean : closed.cleanup = .clean
      · simp [hclean]
      · simp [hclean]
    | fails error => exact (ends_exit r₂ waiting _ Handover.drained_ne _).after hpublish
    | dropped => exact (ends_dropped r₂ waiting _ Handover.drained_ne).after hpublish

/-- A turn with a generation to serve. -/
theorem ends_serve (waiting : List (LifecycleCommand κ)) :
    Ends r ⟨none, waiting, none, .drained⟩ (serve r answers) := by
  have hready {ready : Option (LifecycleCommand κ)} (h : command r = some ready) :
      r.runtime.commands.recv = some ready := by
    unfold command at h
    split at h
    · cases h
    · exact h
  have hprefer (preference : Bool) : r.Leads ⟨none, waiting, none, .drained⟩ (prefer r preference)
      ⟨none, waiting, none, .drained⟩ := .of_quiet (.prefer preference)
  unfold serve
  dsimp only
  split
  · next preference ready _ hcommand =>
    have htake : Ends (prefer r preference) ⟨none, waiting, none, .drained⟩
        (take (prefer r preference) ready answers) :=
      ends_take (r := prefer r preference) (hready hcommand) waiting
    exact htake.after (hprefer preference)
  · next preference result _ hresult =>
    generalize hinput : SupervisorInput.stepCurrent answers.polls (some r.runtime.delivery.capacity)
      answers.readings
      answers.closing answers.logical = input
    have hserved : r.Leads ⟨none, waiting, none, .drained⟩ ((prefer r preference).supervise input)
        ⟨none, waiting, none, .served⟩ := by
      subst hinput
      exact (hprefer preference).trans (leads_supervise _ ⟨rfl, rfl⟩ nofun)
    cases result with
    | ok _ => exact (ends_top _ Handover.served_ne).after hserved
    | error error => exact (ends_top _ Handover.served_ne).after (hserved.trans
        (.of_step (.diagnose _)))
  · exact ends_waiting r

/-- A turn with a connection to make. -/
theorem ends_seek (hfree : r.runtime.supervisor.current = none)
    (waiting : List (LifecycleCommand κ)) :
    Ends r ⟨none, waiting, none, .drained⟩ (seek r answers) := by
  have hseek (r : EndpointRound W κ) (h : r.runtime.supervisor.current = none) :
      r.Leads ⟨none, waiting, none, .drained⟩
        (r.supervise (.connect answers.attempt answers.launched answers.tokenOwner
          answers.connected))
        ⟨none, waiting, none, .drained⟩ := leads_supervise r ⟨rfl, h, nofun⟩ nofun
  have hprefer (r : EndpointRound W κ) (preference : Bool) : r.Leads ⟨none, waiting, none, .drained⟩
      (prefer r preference) ⟨none, waiting, none, .drained⟩ := .of_quiet (.prefer preference)
  unfold seek
  dsimp only
  split
  · next preference ready _ hcommand =>
    split
    · have htake : Ends (prefer r preference) ⟨none, waiting, none, .drained⟩
          (take (prefer r preference) ready answers) :=
        ends_take (r := prefer r preference) hcommand waiting
      exact htake.after (hprefer r preference)
    · have hseeked := (hseek r hfree).trans (hprefer _ preference)
      generalize hpolled : r.supervise (.connect answers.attempt answers.launched answers.tokenOwner
        answers.connected) = polled at hseeked ⊢
      have hready : polled.runtime.commands = r.runtime.commands := by rw [← hpolled]; rfl
      have htake : Ends (prefer polled preference) ⟨none, waiting, none, .drained⟩
          (take (prefer polled preference) ready answers) := by
        refine ends_take ?_ waiting
        show polled.runtime.commands.recv = some ready
        rw [hready]
        exact hcommand
      exact htake.after hseeked
  · next preference result _ hresult =>
    have hseeked := (hprefer r preference).trans (hseek _ hfree)
    generalize hconnected : (prefer r preference).supervise
      (.connect answers.attempt answers.launched
      answers.tokenOwner answers.connected) = r₁ at hseeked ⊢
    cases result with
    | ok _ => exact (ends_top r₁ Handover.drained_ne).after hseeked
    | error error =>
      have hstill : r₁.runtime.supervisor.current = none := by
        obtain ⟨effect, hmem, heffect⟩ := List.exists_of_findSome?_eq_some hresult
        cases effect <;> cases heffect
        rw [← hconnected]
        exact ConnectionSupervisor.connected_error hfree hmem
      have hdiagnosed := hseeked.trans
          (.of_step (.diagnose (.connectionAttemptFailed error.display)))
      have hfault : (r₁.diagnose (.connectionAttemptFailed error.display)).Leads ⟨none, waiting,
          none, .drained⟩
          ((r₁.diagnose (.connectionAttemptFailed error.display)).supervise .faultSource)
          ⟨none, waiting, none, .drained⟩ := leads_supervise _ ⟨rfl, hstill, nofun⟩ nofun
      unfold connected
      dsimp only
      split
      · exact (ends_top _ Handover.drained_ne).after hdiagnosed
      · exact (ends_top _ Handover.drained_ne).after hdiagnosed
      · exact (ends_top _ Handover.drained_ne).after (hdiagnosed.trans hfault)
  · exact (ends_waiting _).after (hseek r hfree)

/-- The rest of a turn, from its wait on. -/
theorem ends_resume (runtime : HsmsRuntime W κ) (waiting : List (LifecycleCommand κ)) :
    Ends (.start runtime) ⟨none, waiting, none, .drained⟩ (resume runtime answers) := by
  unfold resume
  dsimp only
  split
  · next hclosed =>
    refine ends_finish ?_ waiting
    rw [Bool.and_eq_true, Bool.not_eq_true'] at hclosed
    exact hclosed.1
  · split
    · unfold idle
      split
      · exact ends_waiting _
      · next command hready => exact ends_take hready waiting
    · split
      · exact ends_serve waiting
      · next hheld =>
        refine ends_seek ?_ waiting
        rw [Option.not_isSome_iff_eq_none] at hheld
        exact hheld

/-- The beginning of a turn, up to its wait. -/
theorem ends_advance (runtime : HsmsRuntime W κ) (now : MonoTime)
    (waiting : List (LifecycleCommand κ))
    {handover : Handover} (hopen : handover ≠ .refused) :
    Ends (.start runtime) ⟨none, waiting, none, handover⟩ (advance runtime now) := by
  have hpublish := leads_publish (.start runtime) now (l := ⟨none, waiting, none, handover⟩) hopen
  unfold advance
  split
  · next r hgoes =>
    rw [hgoes] at hpublish
    repeat' split
    · exact (ends_waiting r).after hpublish
    · exact (ends_exit r waiting none Handover.drained_ne _).after hpublish
    · exact (ends_exit r waiting none Handover.drained_ne _).after hpublish
    · exact (ends_waiting r).after hpublish
  · exact ends_goOn Handover.drained_ne hpublish

/-- What the local variables hold between two inputs.  None of them outlives the turn in which it
is set. -/
structure Rests (stage : LoopStage) (locals : LoopLocals κ) : Prop where
  hand : locals.hand = none
  exit : locals.exit = none
  open_ : locals.handover ≠ .refused
  drained : stage = .waiting → locals.handover = .drained

/-- **An input of the loop is a sequence of steps.**  This is where the control flow of the loop
is looked at, once for all properties. -/
theorem steps_step (self : EndpointLoop W κ) (input : LoopInput W κ) {locals : LoopLocals κ}
    (h : Rests self.stage locals) : ∃ locals', Rests (machine.step self input).1.stage locals' ∧
      Steps EndpointStep ⟨self.runtime, locals⟩ (machine.step self input).2
        ⟨(machine.step self input).1.runtime, locals'⟩ := by
  obtain ⟨hand, waiting, exit, handover⟩ := locals
  obtain rfl : hand = none := h.hand
  obtain rfl : exit = none := h.exit
  have hopen : handover ≠ .refused := h.open_
  have hends {answer : EndpointLoop W κ × List (EndpointEffect κ)}
      (h : Ends (.start self.runtime) ⟨none, waiting, none, handover⟩ answer) :
      ∃ locals', Rests answer.1.stage locals' ∧ Steps EndpointStep
        ⟨self.runtime, none, waiting, none, handover⟩ answer.2 ⟨answer.1.runtime, locals'⟩ := by
    obtain ⟨effects, waiting', handover', heffects, hopen', hwaits, hsteps⟩ := h
    rw [show answer.2 = effects from heffects]
    exact ⟨⟨none, waiting', none, handover'⟩, ⟨rfl, rfl, hopen', hwaits⟩, hsteps⟩
  show ∃ locals', Rests (perform self input).1.stage locals' ∧ Steps EndpointStep
    ⟨self.runtime, none, waiting, none, handover⟩ (perform self input).2
      ⟨(perform self input).1.runtime, locals'⟩
  unfold perform
  split
  · exact hends (ends_advance _ _ _ hopen)
  · next hstage =>
    obtain rfl : handover = .drained := h.drained hstage
    exact hends (ends_resume _ _)
  · exact hends (ends_dropped _ _ _ hopen)
  · exact hends (ends_dropped _ _ _ hopen)
  · exact ⟨⟨none, waiting, none, handover⟩, ⟨rfl, rfl, hopen, h.drained⟩, .single (.apply _)⟩

/-- **The rule of invariants for the endpoint**: what every step keeps holds after every run.  It
is the history rule of `Lib.Machine`, together with the fact that every input is a sequence of
steps. -/
theorem invariant_history {I : List (EndpointEffect κ) → EndpointStage W κ → Prop}
    (hstep : ∀ past stage effects stage', I past stage → EndpointStep stage effects stage' →
      I (past ++ effects) stage')
    {self : EndpointLoop W κ} (h : I [] ⟨self.runtime, none, [], none, .served⟩)
    (hfirst : self.stage = .top)
    (inputs : List (LoopInput W κ)) : ∃ locals, Rests (machine.after self inputs).stage locals ∧
      I (machine.history self inputs) ⟨(machine.after self inputs).runtime, locals⟩ := by
  refine machine.invariant_history
    (I := fun past (self : EndpointLoop W κ) => ∃ locals, Rests self.stage locals ∧
      I past ⟨self.runtime, locals⟩)
    (fun past self input hI => ?_) ⟨⟨none, [], none, .served⟩, ⟨rfl, rfl, nofun, ?_⟩, h⟩ inputs
  · obtain ⟨locals, hrests, hI⟩ := hI
    obtain ⟨locals', hrests', hsteps⟩ := steps_step self input hrests
    exact ⟨locals', hrests', hsteps.accumulates hstep hI⟩
  · rw [hfirst]
    exact nofun

end EndpointLoop

end Hsms
end SecsRust
