import SecsRust.Hsms.Endpoint.Loop

/-!
# Acknowledgements of an endpoint

An application that awaits `start`, `stop` or `disconnect` acts on the answer, and it reads
the state of the endpoint from a snapshot that another call returns.  What is shown here is
that the two agree: an acknowledgement follows the snapshot that bears it out
(`Acknowledged`), and a snapshot that says `StoppedClean` is one of an endpoint that is
stopped, not faulted, and without a generation.

The results of control commands, sends and replies are no acknowledgements of the loop.
They are made by a Driver and come through the outbox, and all that is said of them here is
that they do.

## Commands that wait

`stop` and `disconnect` may have to wait for the exit of the generation in the slot, and are
put into `pending` meanwhile.  That they are not forgotten there is the content of `Told`,
the books of the loop: what is in `pending` is what has been put off, and for each of these
commands either the slot is held and sound, or the exit that it waits for is the one whose
acknowledgements are due.  A command that waits goes on to wait under every operation that
leaves the slot held (`Told.waits_keeps`), and an exit finds every one of them satisfied
(`Told.finish`), so the one branch that empties the list answers all of it.

The books also tie the last snapshot to the runtime (`Told.shown_of_published`).  That is
what turns the guard of an answer, which reads the runtime, into a statement about what a
handle reads.

Each step keeps the books (`Told.step`), and `acknowledgements_are_true` states what they
come to over every run of a new endpoint.
-/

namespace SecsRust
namespace Hsms

open Secs2 EndpointRound

universe u v

variable {W : Type u} {κ : Type v}

/-! ## What a handle reads -/

/-- The snapshot that an effect publishes. -/
def EndpointEffect.snapshot : EndpointEffect κ → Option EndpointStateSnapshot
  | published snapshot => some snapshot
  | _ => none

/-- The snapshot that a handle reads after these effects. -/
def shownIn (past : List (EndpointEffect κ)) : EndpointStateSnapshot :=
  (past.filterMap EndpointEffect.snapshot).getLast?.getD .stoppedClean

/-- Effects that publish nothing show nothing new. -/
theorem shownIn_append_of_silent {past effects : List (EndpointEffect κ)}
    (h : effects.filterMap EndpointEffect.snapshot = []) :
    shownIn (past ++ effects) = shownIn past := by
  unfold shownIn
  rw [List.filterMap_append, h, List.append_nil]

@[simp] theorem shownIn_append_published (past : List (EndpointEffect κ))
    (snapshot : EndpointStateSnapshot) :
    shownIn (past ++ [.published snapshot]) = snapshot := by
  unfold shownIn
  rw [List.filterMap_append]
  simp [EndpointEffect.snapshot]

/-! ## Acknowledgements -/

/-- **What the result of a command says**, by its intent, to whoever reads the snapshot next. -/
def LifecycleIntent.Acknowledged (past : List (EndpointEffect κ)) :
    LifecycleIntent → LifecycleResult → Prop
  | .reply _ intent token body, result =>
    ∃ error, result = .ok (.rejectedReply intent token body error)
  | .data _ message _, result => ∃ error, result = .ok (.rejectedPrimary message error)
  | .control _ _, result => ∃ error, result = .error error
  | .start, .ok receipt => (∃ address, receipt = .started ⟨address⟩) ∧
    (shownIn past).desired = .running ∧ (shownIn past).phase ≠ .faulted
  | .stop, .ok receipt => receipt = .closed ∧ (shownIn past).desired = .stopped ∧
    (shownIn past).phase = .stoppedClean ∧ (shownIn past).generation = .none ∧
    (shownIn past).session = none
  | .disconnect none, .ok receipt => receipt = .closed
  | .disconnect (some generation), .ok receipt => receipt = .closed ∧ ∃ exit : SessionExit,
    .supervisor (.finished (.ok (some exit))) ∈ past ∧ exit.generation = generation ∧
      exit.cleanup = .clean ∧
    (shownIn past).generation = .none ∧ (shownIn past).lastExit = some exit.report
  | .start, .error _ | .stop, .error _ | .disconnect _, .error _ => True

/-- The completion of a command is one of the Driver, or `receive` has taken the command and the
result is true of its intent. -/
def Acknowledged (past : List (EndpointEffect κ)) (command : LifecycleCommand κ)
    (result : LifecycleResult) :
    Prop :=
  (∃ effect, .supervisor effect ∈ past ∧ effect.outbox = some ⟨command, result⟩) ∨
    ∃ origin, .received (some origin) ∈ past ∧ origin.emptied = command ∧
      origin.intent.Acknowledged past result

/-- All that has been completed so far. -/
def AllAcknowledged (past : List (EndpointEffect κ)) : Prop :=
  ∀ x command result y, past = x ++ .completed command result :: y → Acknowledged x command result

theorem LifecycleIntent.Acknowledged.mono {past effects : List (EndpointEffect κ)}
    {intent : LifecycleIntent}
    {result : LifecycleResult} (h : intent.Acknowledged past result)
    (hsilent : effects.filterMap EndpointEffect.snapshot = []) :
    intent.Acknowledged (past ++ effects) result := by
  have hshown : shownIn (past ++ effects) = shownIn past := shownIn_append_of_silent hsilent
  cases intent with
  | reply _ _ _ _ | data _ _ _ | control _ _ => exact h
  | start =>
    cases result with
    | error error => trivial
    | ok receipt =>
      unfold LifecycleIntent.Acknowledged at h ⊢
      rw [hshown]
      exact h
  | stop =>
    cases result with
    | error error => trivial
    | ok receipt =>
      unfold LifecycleIntent.Acknowledged at h ⊢
      rw [hshown]
      exact h
  | disconnect generation =>
    cases result with
    | error error => cases generation <;> trivial
    | ok receipt =>
      cases generation with
      | none => exact h
      | some generation =>
        unfold LifecycleIntent.Acknowledged at h ⊢
        rw [hshown]
        obtain ⟨hreceipt, exit, hmem, hrest⟩ := h
        exact ⟨hreceipt, exit, List.mem_append_left _ hmem, hrest⟩

theorem Acknowledged.mono {past effects : List (EndpointEffect κ)} {command : LifecycleCommand κ}
    {result : LifecycleResult} (h : Acknowledged past command result)
    (hsilent : effects.filterMap EndpointEffect.snapshot = []) :
    Acknowledged (past ++ effects) command result := by
  rcases h with ⟨effect, hmem, houtbox⟩ | ⟨origin, hmem, horigin, hintent⟩
  · exact Or.inl ⟨effect, List.mem_append_left _ hmem, houtbox⟩
  · exact Or.inr ⟨origin, List.mem_append_left _ hmem, horigin, hintent.mono hsilent⟩

namespace AllAcknowledged

variable {past effects : List (EndpointEffect κ)}

theorem nil : AllAcknowledged ([] : List (EndpointEffect κ)) := fun x _ _ _ h => by simp at h

/-- More effects. -/
theorem append (h : AllAcknowledged past) (hnew : ∀ a command result b,
    effects = a ++ .completed command result :: b → Acknowledged (past ++ a) command result) :
    AllAcknowledged (past ++ effects) := by
  intro x command result y hsplit
  rcases List.append_eq_append_iff.mp hsplit with ⟨more, rfl, hlast⟩ | ⟨more, hpast, hlast⟩
  · exact hnew more command result y hlast
  · rcases List.cons_eq_append_iff.mp hlast with ⟨rfl, heffects⟩ | ⟨rest, rfl, rfl⟩
    · rw [List.append_nil] at hpast
      have hfirst := hnew [] command result y heffects
      rwa [List.append_nil, hpast] at hfirst
    · exact h x command result rest hpast

/-- Effects without a completion. -/
theorem quiet (h : AllAcknowledged past)
    (hquiet : ∀ command result, .completed command result ∉ effects) :
    AllAcknowledged (past ++ effects) :=
  h.append fun a command result b heffects =>
    absurd (by rw [heffects]; exact List.mem_append_right _ List.mem_cons_self)
      (hquiet command result)

/-- Completions one after the other. -/
theorem completions (h : AllAcknowledged past)
    (completed : List (LifecycleCommand κ × LifecycleResult))
    (hnew : ∀ completion ∈ completed, Acknowledged past completion.1 completion.2) :
    AllAcknowledged (past ++ completed.map fun completion =>
      .completed completion.1 completion.2) := by
  refine h.append fun a command result b heffects => ?_
  obtain ⟨a', rest, hcompleted, ha, hrest⟩ := List.map_eq_append_iff.mp heffects
  obtain ⟨completion, b', rfl, hcompletion, -⟩ := List.map_eq_cons_iff.mp hrest
  obtain ⟨rfl, rfl⟩ := EndpointEffect.completed.inj hcompletion
  refine (hnew completion ?_).mono ?_
  · rw [hcompleted]
    exact List.mem_append_right _ List.mem_cons_self
  · rw [← ha]
    refine List.filterMap_eq_nil_iff.mpr fun effect hmem => ?_
    obtain ⟨_, -, rfl⟩ := List.mem_map.mp hmem
    rfl

end AllAcknowledged

/-! ## What a step leaves -/

namespace EndpointRound

variable [WriterIngress W]

/-- An operation of the supervisor shows as its effects and as what it reports to the observer. -/
theorem mem_during {s : HsmsRuntime W κ} {input : SupervisorInput W (LifecycleCommand κ)}
    {effect : EndpointEffect κ} (h : effect ∈ during s input) :
    (∃ inner ∈ (s.supervisor.perform input).2, effect = .supervisor inner) ∨
      ∃ event, effect = .diagnostic event := by
  rcases List.mem_append.mp h with h | h
  · rcases List.mem_append.mp h with h | h
    · cases h
    · obtain ⟨inner, hinner, rfl⟩ := List.mem_map.mp h
      exact Or.inl ⟨inner, hinner, rfl⟩
  · obtain ⟨event, -, rfl⟩ := List.mem_map.mp h
    exact Or.inr ⟨event, rfl⟩

theorem supervisor_mem_during {s : HsmsRuntime W κ} {input : SupervisorInput W (LifecycleCommand κ)}
    {inner : SupervisorEffect (LifecycleCommand κ)} :
    .supervisor inner ∈ during s input ↔ inner ∈ (s.supervisor.perform input).2 := by
  constructor
  · intro h
    rcases mem_during h with ⟨other, hmem, heq⟩ | ⟨event, heq⟩
    · rwa [EndpointEffect.supervisor.inj heq]
    · cases heq
  · exact fun h => List.mem_append_left _
      (List.mem_append_right _ (List.mem_map.mpr ⟨inner, h, rfl⟩))

theorem snapshot_during (s : HsmsRuntime W κ) (input : SupervisorInput W (LifecycleCommand κ)) :
    (during s input).filterMap EndpointEffect.snapshot = [] := by
  refine List.filterMap_eq_nil_iff.mpr fun effect h => ?_
  rcases mem_during h with ⟨_, _, rfl⟩ | ⟨_, rfl⟩
  · rfl
  · rfl

theorem completed_during (s : HsmsRuntime W κ) (input : SupervisorInput W (LifecycleCommand κ))
    (command : LifecycleCommand κ) (result : LifecycleResult) :
    .completed command result ∉ during s input := by
  intro h
  rcases mem_during h with ⟨_, _, heq⟩ | ⟨_, heq⟩
  · cases heq
  · cases heq

end EndpointRound

namespace ConnectionSupervisor

variable [WriterIngress W]

/-- Without an exit `finish_generation` leaves the slot and the fault latch. -/
theorem unfinished_keeps {s : ConnectionSupervisor W κ} {now : MonoTime} {cleanup : Cleanup}
    (h : ∀ exit, (s.finishGeneration now cleanup).2.findSome? SupervisorEffect.finishResult ≠
      some (.ok (some exit))) :
    (s.finishGeneration now cleanup).1.current.map GenerationRuntime.generation =
        s.current.map GenerationRuntime.generation ∧
      (s.finishGeneration now cleanup).1.faulted = s.faulted := by
  have hreport (r : GenerationRound W κ) (exit : SessionExit) :
      (driverEffects r ++ ([.exited exit, .finished (.ok (some exit))] : List
        (SupervisorEffect κ))).findSome?
          SupervisorEffect.finishResult =
        some (.ok (some exit)) := by
    rw [List.findSome?_append, findSome?_driverEffects (fun _ _ => rfl)]
    rfl
  unfold finishGeneration at h ⊢
  cases hcurrent : s.current with
  | none => exact ⟨by rw [hcurrent], rfl⟩
  | some g =>
    rw [hcurrent] at h
    dsimp only at h ⊢
    by_cases hclosed : (!g.driver.transportClosed) = true
    · rw [if_pos hclosed]
      exact ⟨by rw [hcurrent], rfl⟩
    · rw [if_neg hclosed] at h ⊢
      split at h
      · have hproceeds (reason : GenerationCloseReason) : GenerationRound.Proceeds (fun _ => False)
            (fun _ => True) (.start g) ((GenerationRound.start g).cleanUp reason now cleanup) :=
          .cleanUp (.start g) reason now cleanup
        exact ⟨congrArg some (hproceeds _).generation, rfl⟩
      · next exit _ =>
        refine absurd ?_ (h exit)
        repeat' split
        all_goals exact hreport _ exit

end ConnectionSupervisor

/-! ## Commands that wait -/

/-- What is left of a command that waits once the generation has exited. -/
def LifecycleIntent.Leaves (exit : SessionExit) (runtime : HsmsRuntime W κ) : LifecycleIntent → Prop
  | .stop => runtime.supervisor.running = false
  | .disconnect generation => generation = some exit.generation
  | _ => False

theorem LifecycleIntent.Waits.of_slot {s s' : HsmsRuntime W κ} {intent : LifecycleIntent}
    (h : intent.Waits s)
    (hrunning : s.supervisor.running = false → s'.supervisor.running = false)
    (hoccupant : s'.occupant = s.occupant)
    (hfaulted : s'.supervisor.faulted = s.supervisor.faulted) :
    intent.Waits s' := by
  cases intent with
  | stop => exact ⟨hrunning h.1, hoccupant ▸ h.2.1, hfaulted.trans h.2.2⟩
  | disconnect generation =>
    exact ⟨h.1.trans hoccupant.symm, hoccupant ▸ h.2.1, hfaulted.trans h.2.2⟩
  | reply _ _ _ _ | data _ _ _ | control _ _ | start => cases h

/-- What waits waits for a generation in a sound slot. -/
theorem LifecycleIntent.Waits.held {s : HsmsRuntime W κ} {intent : LifecycleIntent}
    (h : intent.Waits s) :
    s.occupant.isSome = true ∧ s.supervisor.faulted = false := by
  cases intent with
  | stop | disconnect _ => exact h.2
  | reply _ _ _ _ | data _ _ _ | control _ _ | start => cases h

theorem LifecycleIntent.Leaves.of_running {s s' : HsmsRuntime W κ} {intent : LifecycleIntent}
    {exit : SessionExit} (h : intent.Leaves exit s) (hrunning : s.supervisor.running = false →
      s'.supervisor.running = false) :
    intent.Leaves exit s' := by
  cases intent with
  | stop => exact hrunning h
  | disconnect generation => exact h
  | reply _ _ _ _ | data _ _ _ | control _ _ | start => cases h

/-- **The books of the loop.**  What waits is what `pending` holds, and either the slot is held and
sound for it or the exit that it waits for is there; what is in the outbox has come from a Driver;
what a handle reads is the state of the runtime. -/
structure Told (past : List (EndpointEffect κ)) (stage : EndpointStage W κ) : Prop where
  steady : stage.runtime.supervisor.Steady
  pending : stage.runtime.pending = stage.locals.waiting.map LifecycleCommand.emptied
  taken : ∀ c, stage.locals.hand = some c ∨ c ∈ stage.locals.waiting → .received (some c) ∈ past
  waits : stage.locals.exit = none → ∀ c ∈ stage.locals.waiting, c.intent.Waits stage.runtime
  exits : ∀ exit, stage.locals.exit = some exit → .supervisor (.finished (.ok (some exit))) ∈ past ∧
    (exit.cleanup = .clean → stage.runtime.supervisor.current = none ∧
      (stage.runtime.supervisor.running = false → stage.runtime.supervisor.faulted = false)) ∧
    ∀ c ∈ stage.locals.waiting, c.intent.Leaves exit stage.runtime
  outbox : ∀ completion ∈ stage.runtime.completions,
    ∃ effect, .supervisor effect ∈ past ∧ effect.outbox = some completion
  shown : shownIn past = stage.runtime.state
  acknowledged : AllAcknowledged past
  stopped : ∀ snapshot, .published snapshot ∈ past → snapshot.phase = .stoppedClean →
    snapshot.desired = .stopped ∧ snapshot.generation = .none ∧ snapshot.session = none

/-- The effect tells an application something. -/
def EndpointEffect.tells : EndpointEffect κ → Bool
  | completed .. | published _ => true
  | _ => false

namespace Told

variable {past effects : List (EndpointEffect κ)} {s s' : HsmsRuntime W κ} {l l' : LoopLocals κ}

theorem snapshot_of_quiet (h : ∀ effect ∈ effects, effect.tells = false) :
    effects.filterMap EndpointEffect.snapshot = [] := by
  refine List.filterMap_eq_nil_iff.mpr fun effect hmem => ?_
  have hquiet := h effect hmem
  cases effect <;> first | rfl | cases hquiet

/-- A step that leaves the supervisor and the state: what waits has waited before. -/
theorem tell (h : Told past ⟨s, l⟩) (hsupervisor : s'.supervisor = s.supervisor)
    (hpending : s'.pending = l'.waiting.map LifecycleCommand.emptied)
    (hcompletions : ∀ completion ∈ s'.completions, completion ∈ s.completions)
    (hstate : s'.state = s.state)
    (hsilent : effects.filterMap EndpointEffect.snapshot = [])
    (hacknowledged : AllAcknowledged (past ++ effects))
    (hwaiting : ∀ c ∈ l'.waiting, c ∈ l.waiting) (hexit : l'.exit = l.exit ∨ l'.waiting = [] ∧
      l'.exit = none)
    (htaken : ∀ c, l'.hand = some c → .received (some c) ∈ past ++ effects) :
    Told (past ++ effects) ⟨s', l'⟩ where
  steady := by
    show s'.supervisor.Steady
    rw [hsupervisor]
    exact h.steady
  pending := hpending
  taken c hc := hc.elim (htaken c) fun hc => List.mem_append_left _
    (h.taken c (Or.inr (hwaiting c hc)))
  waits hnone c hc := by
    rcases hexit with hexit | ⟨hempty, -⟩
    · have hwaits := h.waits (hexit.symm.trans hnone) c (hwaiting c hc)
      exact hwaits.of_slot (fun hrunning => hsupervisor ▸ hrunning) (congrArg (fun supervisor =>
        Option.map GenerationRuntime.generation (ConnectionSupervisor.current supervisor))
          hsupervisor)
        (congrArg ConnectionSupervisor.faulted hsupervisor)
    · rw [hempty] at hc
      cases hc
  exits exit hsome := by
    rcases hexit with hexit | ⟨-, hnone⟩
    · obtain ⟨hmem, hclean, hleaves⟩ := h.exits exit (hexit.symm.trans hsome)
      refine ⟨List.mem_append_left _ hmem, ?_, fun c hc => ?_⟩
      · show _ → s'.supervisor.current = none ∧
          (s'.supervisor.running = false → s'.supervisor.faulted = false)
        rw [hsupervisor]
        exact hclean
      · exact (hleaves c (hwaiting c hc)).of_running fun hrunning => hsupervisor ▸ hrunning
    · cases hnone.symm.trans hsome
  outbox completion hmem := by
    obtain ⟨effect, hpast, houtbox⟩ := h.outbox completion (hcompletions completion hmem)
    exact ⟨effect, List.mem_append_left _ hpast, houtbox⟩
  shown := by
    rw [shownIn_append_of_silent hsilent]
    exact h.shown.trans hstate.symm
  acknowledged := hacknowledged
  stopped snapshot hmem := by
    rcases List.mem_append.mp hmem with hmem | hmem
    · exact h.stopped snapshot hmem
    · have hshows : snapshot ∈ effects.filterMap EndpointEffect.snapshot :=
        List.mem_filterMap.mpr ⟨_, hmem, rfl⟩
      rw [hsilent] at hshows
      cases hshows

/-- A step that tells nobody and leaves what is told of. -/
theorem keep (h : Told past ⟨s, l⟩) (hsupervisor : s'.supervisor = s.supervisor)
    (hpending : s'.pending = s.pending) (hcompletions : s'.completions = s.completions)
    (hstate : s'.state = s.state)
    (hquiet : ∀ effect ∈ effects, effect.tells = false) (hwaiting : l'.waiting = l.waiting)
    (hexit : l'.exit = l.exit) (htaken : ∀ c, l'.hand = some c → .received
      (some c) ∈ past ++ effects) :
    Told (past ++ effects) ⟨s', l'⟩ := by
  refine h.tell hsupervisor ?_ (fun _ hmem => hcompletions ▸ hmem) hstate (snapshot_of_quiet hquiet)
    (h.acknowledged.quiet fun command result hmem => nomatch hquiet _ hmem)
    (fun _ hc => hwaiting ▸ hc)
    (Or.inl hexit) htaken
  rw [hpending, hwaiting]
  exact h.pending

/-- An operation of the supervisor, by what it leaves of the slot. -/
theorem perform [WriterIngress W] {hand hand' : Option (LifecycleCommand κ)}
    {waiting : List (LifecycleCommand κ)} {exit exit' : Option SessionExit}
    {handover handover' : Handover}
    (h : Told past ⟨s, hand, waiting, exit, handover⟩)
    {input : SupervisorInput W (LifecycleCommand κ)} (hquiet : input.drains = false)
    (hhand : ∀ c, hand' = some c → hand = some c)
    (hwaits : exit' = none → ∀ c ∈ waiting, c.intent.Waits (after s input))
    (hexits : ∀ e, exit' = some e → .supervisor
      (.finished (.ok (some e))) ∈ past ++ during s input ∧
      (e.cleanup = .clean → (after s input).supervisor.current = none ∧
        ((after s input).supervisor.running = false → (after s input).supervisor.faulted = false)) ∧
      ∀ c ∈ waiting, c.intent.Leaves e (after s input)) :
    Told (past ++ during s input) ⟨after s input, hand', waiting, exit', handover'⟩ where
  steady := ConnectionSupervisor.steady_perform h.steady hquiet
  pending := h.pending
  taken c hc := List.mem_append_left _ (h.taken c (hc.imp_left (hhand c)))
  waits := hwaits
  exits := hexits
  outbox completion hmem := by
    rcases List.mem_append.mp hmem with hmem | hmem
    · obtain ⟨effect, hpast, houtbox⟩ := h.outbox completion hmem
      exact ⟨effect, List.mem_append_left _ hpast, houtbox⟩
    · obtain ⟨effect, hinner, houtbox⟩ := List.mem_filterMap.mp hmem
      exact ⟨effect, List.mem_append_right _ (supervisor_mem_during.mpr hinner), houtbox⟩
  shown := by
    rw [shownIn_append_of_silent (snapshot_during s input)]
    exact h.shown
  acknowledged := h.acknowledged.quiet (completed_during s input)
  stopped snapshot hmem := by
    rcases List.mem_append.mp hmem with hmem | hmem
    · exact h.stopped snapshot hmem
    · rcases mem_during hmem with ⟨_, _, heq⟩ | ⟨_, heq⟩
      · cases heq
      · cases heq

/-- A command that waits goes on to wait while the slot is held. -/
theorem waits_keeps [WriterIngress W] (intent : LifecycleIntent) (hwaits : intent.Waits s)
    {input : SupervisorInput W (LifecycleCommand κ)} (hkeeps : input.keeps = true)
    (hquiet : input.drains = false) : intent.Waits (after s input) := by
  obtain ⟨g, hcurrent, -⟩ :=
    Option.map_eq_some_iff.mp (Option.isSome_iff_exists.mp hwaits.held.1).choose_spec
  obtain ⟨⟨g', hcurrent', hsame⟩, hfaulted⟩ :=
    ConnectionSupervisor.holds_perform hcurrent input hkeeps hquiet
  refine hwaits.of_slot (fun hstopped => ?_) ?_ hfaulted
  · exact ConnectionSupervisor.stopped_perform hstopped input hkeeps
  · show ((s.supervisor.perform input).1.current.map GenerationRuntime.generation) =
      s.supervisor.current.map GenerationRuntime.generation
    rw [hcurrent', hcurrent, Option.map_some, Option.map_some, hsame]

/-- **An operation that the loop may make.**  What the Driver completes in it goes to the outbox,
and the books say what each of these results is entitled to claim. -/
theorem supervise [WriterIngress W] {l : LoopLocals κ} (h : Told past ⟨s, l⟩)
    {input : SupervisorInput W (LifecycleCommand κ)} (permitted : input.Permitted ⟨s, l⟩)
    (handover : Handover) :
    Told (past ++ during s input) ⟨after s input, { l with handover := handover }⟩ := by
  obtain ⟨hand, waiting, exit, before⟩ := l
  have hquiet := permitted.quiet
  refine h.perform hquiet (fun _ => id) (fun hnone c hc => ?_) fun e he => ?_
  · have hwaits := h.waits hnone c hc
    obtain ⟨hheld, hsound⟩ := hwaits.held
    have hfree : s.supervisor.current ≠ none := fun hfree => by
      unfold HsmsRuntime.occupant at hheld
      rw [hfree] at hheld
      cases hheld
    cases input with
    | start validated now bound =>
      have hpending : waiting.map LifecycleCommand.emptied = [] :=
        h.pending.symm.trans permitted.2.1
      rw [List.map_eq_nil_iff] at hpending
      subst hpending
      cases hc
    | connect attempt launched tokenOwner now => exact absurd permitted.2.1 hfree
    | faultSource => exact absurd permitted.2.1 hfree
    | recoverStopped now cleanup =>
      rcases permitted.2.1 with hfaulted | hnone
      · exact absurd (hsound.symm.trans hfaulted) Bool.false_ne_true
      · exact absurd hnone hfree
    | finishGeneration now cleanup => cases permitted
    | stepCurrent _ _ _ _ _ | beginStop _ _ | beginDisconnect _ _ | turn _ =>
      exact waits_keeps _ hwaits rfl hquiet
  · obtain ⟨hmem, hclean, hleaves⟩ := h.exits e he
    have hkept : Kept s (after s input) := by
      cases input with
      | turn turn => exact Kept.turn (.start s) turn
      | start _ _ _ | connect _ _ _ _ | recoverStopped _ _ | faultSource | stepCurrent _ _ _ _ _
      | beginStop _ _
      | beginDisconnect _ _ => cases he.symm.trans permitted.1
      | finishGeneration _ _ => cases permitted
    refine ⟨List.mem_append_left _ hmem, fun hcleaned => ?_, fun c hc => ?_⟩
    · obtain ⟨hfree, hsound⟩ := hclean hcleaned
      refine ⟨hkept.free hfree, fun hstopped => ?_⟩
      rw [hkept.running] at hstopped
      rw [hkept.faulted]
      exact hsound hstopped
    · exact (hleaves c hc).of_running fun hstopped => hkept.running.trans hstopped

variable [WriterIngress W] {hand : Option (LifecycleCommand κ)}
  {waiting : List (LifecycleCommand κ)}
  {exit : Option SessionExit} {handover : Handover}

/-- The exit of the generation in the slot, for which every command has waited. -/
theorem finish (h : Told past ⟨s, none, waiting, none, handover⟩) {now : MonoTime}
    {cleanup : Cleanup}
    {closed : SessionExit}
    (exits : (s.supervisor.perform (.finishGeneration now cleanup)).2.findSome?
      SupervisorEffect.finishResult = some (.ok (some closed))) :
    Told (past ++ during s (.finishGeneration now cleanup))
      ⟨after s (.finishGeneration now cleanup), none, waiting, some closed, handover⟩ := by
  obtain ⟨effect, hmem, heffect⟩ := List.exists_of_findSome?_eq_some exits
  have hmem : .finished (.ok (some closed)) ∈ (s.supervisor.finishGeneration now cleanup).2 := by
    cases effect <;> cases heffect
    exact hmem
  obtain ⟨⟨g, hcurrent, hgeneration⟩, hclean⟩ := ConnectionSupervisor.finished_ok hmem
  have hrunning : (after s
      (.finishGeneration now cleanup)).supervisor.running = s.supervisor.running :=
    s.supervisor.running_finishGeneration now cleanup
  refine h.perform rfl (fun _ => id) nofun fun e he => ?_
  obtain rfl := Option.some.inj he
  refine ⟨List.mem_append_right _ (supervisor_mem_during.mpr hmem), fun hcleaned => ?_,
    fun c hc => ?_⟩
  · obtain ⟨hfree, hsound⟩ := hclean hcleaned
    exact ⟨hfree, fun hstopped => hsound (hrunning.symm.trans hstopped)⟩
  · have hwaits := h.waits rfl c hc
    generalize c.intent = intent at hwaits ⊢
    cases intent with
    | stop => exact hrunning.trans hwaits.1
    | disconnect generation =>
      refine hwaits.1.trans ?_
      unfold HsmsRuntime.occupant
      rw [hcurrent, hgeneration]
      rfl
    | reply _ _ _ _ | data _ _ _ | control _ _ | start => cases hwaits

theorem unfinished (h : Told past ⟨s, none, waiting, none, handover⟩) {now : MonoTime}
    {cleanup : Cleanup}
    (stays : ∀ exit, (s.supervisor.perform (.finishGeneration now cleanup)).2.findSome?
      SupervisorEffect.finishResult ≠ some (.ok (some exit))) :
    Told (past ++ during s (.finishGeneration now cleanup))
      ⟨after s (.finishGeneration now cleanup), none, waiting, none, handover⟩ := by
  obtain ⟨hoccupant, hfaulted⟩ := ConnectionSupervisor.unfinished_keeps stays
  refine h.perform rfl (fun _ => id) (fun _ c hc => ?_) nofun
  exact (h.waits rfl c hc).of_slot (fun hstopped =>
    (s.supervisor.running_finishGeneration now cleanup).trans hstopped) hoccupant hfaulted

/-- A command goes to the Driver. -/
theorem handOver {command : LifecycleCommand κ}
    (h : Told past ⟨s, some command, waiting, none, handover⟩)
    {generation : ConnectionGeneration}
    {input : DriverInput (RuntimeCompletion (LifecycleCommand κ))}
    (calls : command.intent.Calls command.emptied generation input) :
    Told (past ++ during s (.turn (.driver input)))
      ⟨after s (.turn (.driver input)), none, waiting, none, handover⟩ := by
  have hquiet : input.drains = false := by
    generalize command.intent = intent at calls
    cases intent with
    | reply _ _ _ _ | control _ _ => rw [calls.2]; rfl
    | data _ _ replyExpected => cases replyExpected <;> (rw [calls.2]; rfl)
    | start | stop | disconnect _ => cases calls
  exact h.perform hquiet nofun
    (fun hnone c hc => waits_keeps _ (h.waits hnone c hc) rfl hquiet) nofun

omit [WriterIngress W] in
/-- What the runtime is when its state is the published one. -/
theorem shown_of_published (h : Told past ⟨s, hand, waiting, exit, handover⟩)
    (hpublished : s.Published) :
    shownIn past = s.observed s.state.sequence := h.shown.trans hpublished.symm

omit [WriterIngress W] in
/-- The state of a supervisor without a generation and without a fault. -/
theorem observed_of_free (sequence : UInt64) (hstopped : s.supervisor.running = false)
    (hsound : s.supervisor.faulted = false) (hfree : s.supervisor.current = none) :
    (s.observed sequence).desired = .stopped ∧ (s.observed sequence).phase = .stoppedClean ∧
      (s.observed sequence).generation = .none ∧ (s.observed sequence).session = none := by
  unfold HsmsRuntime.observed
  simp [hstopped, hsound, hfree]

omit [WriterIngress W] in
/-- What `receive` answers by itself, once it is published what it rests on. -/
theorem acknowledged_of_answers {intent : LifecycleIntent} {result : LifecycleResult}
    (h : Told past ⟨s, hand, waiting, exit, handover⟩) (answers : intent.Answers s result) :
    intent.Acknowledged past result := by
  cases intent with
  | reply _ _ _ _ | data _ _ _ | control _ _ => exact answers
  | start =>
    cases result with
    | error error => trivial
    | ok receipt =>
      obtain ⟨hpublished, hrunning, hsound, haddress⟩ := answers
      refine ⟨haddress, ?_⟩
      rw [h.shown_of_published hpublished]
      unfold HsmsRuntime.observed
      rw [hrunning, hsound]
      refine ⟨rfl, ?_⟩
      show (if (false : Bool) = true then EndpointPhase.faulted
        else if s.supervisor.current.any GenerationRuntime.isDraining = true then .draining
        else .running) ≠ .faulted
      split
      · contradiction
      · split
        · exact nofun
        · exact nofun
  | stop =>
    cases result with
    | error error => trivial
    | ok receipt =>
      obtain ⟨hpublished, hstopped, hsound, hfree, hreceipt⟩ := answers
      refine ⟨hreceipt, ?_⟩
      rw [h.shown_of_published hpublished]
      exact observed_of_free _ hstopped hsound hfree
  | disconnect generation =>
    cases result with
    | error error => cases generation <;> trivial
    | ok receipt =>
      obtain ⟨rfl, hreceipt⟩ := answers
      exact hreceipt

omit [WriterIngress W] in
/-- What the end of a generation answers to those that have waited for it. -/
theorem acknowledged_of_leaves {intent : LifecycleIntent} {closed : SessionExit}
    (h : Told past ⟨s, none, waiting, some closed, handover⟩) (published : s.Published)
    (recorded : s.lastExit = some closed.report) (leaves : intent.Leaves closed s) :
    intent.Acknowledged past
      (if closed.cleanup = .clean then .ok .closed else .error .cleanupUnproven) := by
  obtain ⟨hmem, hclean, -⟩ := h.exits closed rfl
  by_cases hcleaned : closed.cleanup = .clean
  · rw [if_pos hcleaned]
    obtain ⟨hfree, hsound⟩ := hclean hcleaned
    cases intent with
    | stop =>
      refine ⟨rfl, ?_⟩
      rw [h.shown_of_published published]
      exact observed_of_free _ leaves (hsound leaves) hfree
    | disconnect generation =>
      cases generation with
      | none => cases leaves
      | some generation =>
        refine ⟨rfl, closed, hmem, (Option.some.inj leaves).symm, hcleaned, ?_⟩
        rw [h.shown_of_published published]
        unfold HsmsRuntime.observed
        rw [hfree]
        exact ⟨rfl, recorded⟩
    | reply _ _ _ _ | data _ _ _ | control _ _ | start => cases leaves
  · rw [if_neg hcleaned]
    cases intent with
    | stop => trivial
    | disconnect generation => cases generation <;> trivial
    | reply _ _ _ _ | data _ _ _ | control _ _ | start => cases leaves

omit [WriterIngress W] in
/-- What a command gets that was still in the channel. -/
theorem acknowledged_of_stopped {past : List (EndpointEffect κ)} (command : LifecycleCommand κ) :
    command.intent.Acknowledged past command.stoppedResult := by
  unfold LifecycleCommand.stoppedResult
  generalize command.intent = intent
  cases intent with
  | reply _ _ _ _ | data _ _ _ | control _ _ => exact ⟨_, rfl⟩
  | start | stop => trivial
  | disconnect generation => cases generation <;> trivial

omit [WriterIngress W] in
/-- A new state for the handles. -/
theorem shows (h : Told past ⟨s, hand, waiting, exit, handover⟩) {snapshot : EndpointStateSnapshot}
    (hstopped : snapshot.phase = .stoppedClean →
      snapshot.desired = .stopped ∧ snapshot.generation = .none ∧ snapshot.session = none) :
    Told (past ++ [.published snapshot]) ⟨{ s with state := snapshot }, hand, waiting, exit,
      handover⟩ where
  steady := h.steady
  pending := h.pending
  taken c hc := List.mem_append_left _ (h.taken c hc)
  waits := h.waits
  exits e he := ⟨List.mem_append_left _ (h.exits e he).1, (h.exits e he).2⟩
  outbox completion hmem := by
    obtain ⟨effect, hpast, houtbox⟩ := h.outbox completion hmem
    exact ⟨effect, List.mem_append_left _ hpast, houtbox⟩
  shown := shownIn_append_published past snapshot
  acknowledged := h.acknowledged.quiet fun command result hmem => by simp at hmem
  stopped other hmem := by
    rcases List.mem_append.mp hmem with hmem | hmem
    · exact h.stopped other hmem
    · rw [EndpointEffect.published.inj (List.mem_singleton.mp hmem)]
      exact hstopped

omit [WriterIngress W] in
/-- A stopped and clean state is one without a generation. -/
theorem observed_stoppedClean (h : Told past ⟨s, hand, waiting, exit, handover⟩) {sequence : UInt64}
    (hphase : (s.observed sequence).phase = .stoppedClean) :
    (s.observed sequence).desired = .stopped ∧ (s.observed sequence).generation = .none ∧
      (s.observed sequence).session = none := by
  have hphase : (if s.supervisor.faulted = true then EndpointPhase.faulted
      else if s.supervisor.current.any GenerationRuntime.isDraining = true then .draining
      else if s.supervisor.running = true then .running else .stoppedClean) = .stoppedClean :=
        hphase
  split at hphase
  · cases hphase
  · next hsound =>
    split at hphase
    · cases hphase
    · next hdraining =>
      split at hphase
      · cases hphase
      · next hrunning =>
        rw [Bool.not_eq_true] at hrunning hsound
        have hfree : s.supervisor.current = none := by
          cases hcurrent : s.supervisor.current with
          | none => rfl
          | some g =>
            rw [hcurrent] at hdraining
            exact absurd (h.steady hrunning g hcurrent) hdraining
        obtain ⟨hdesired, -, hslot⟩ := observed_of_free sequence hrunning hsound hfree
        exact ⟨hdesired, hslot⟩

omit [WriterIngress W] in
/-- The application leaves the books alone. -/
theorem apply (h : Told past ⟨s, none, waiting, none, handover⟩) (input : LoopInput W κ) :
    Told (past ++ (EndpointLoop.apply s input).2) ⟨(EndpointLoop.apply s input).1, none, waiting,
        none, handover⟩ := by
  have hquiet : ∀ effect ∈ (EndpointLoop.apply s input).2, effect.tells = false := by
    intro effect hmem
    cases input with
    | submit command =>
      dsimp only [EndpointLoop.apply] at hmem
      split at hmem
      · cases hmem
      · rw [List.mem_singleton.mp hmem]
        rfl
    | recvPrimary | recvProtocolError =>
      obtain ⟨_, -, rfl⟩ := Option.map_eq_some_iff.mp (Option.mem_toList.mp hmem)
      rfl
    | dropHandles | recvDiagnostic | dropPrimaries | dropErrors | dropDiagnostics
    | advance _ | resume _
    | drop => cases hmem
  have hsame : (EndpointLoop.apply s input).1.supervisor = s.supervisor ∧
      (EndpointLoop.apply s input).1.pending = s.pending ∧
      (EndpointLoop.apply s input).1.completions = s.completions ∧
      (EndpointLoop.apply s input).1.state = s.state := by
    cases input with
    | submit command =>
      dsimp only [EndpointLoop.apply]
      split
      · exact ⟨rfl, rfl, rfl, rfl⟩
      · exact ⟨rfl, rfl, rfl, rfl⟩
    | recvPrimary | recvProtocolError | dropHandles | recvDiagnostic | dropPrimaries | dropErrors
    | dropDiagnostics | advance _ | resume _ | drop => exact ⟨rfl, rfl, rfl, rfl⟩
  obtain ⟨hsupervisor, hpending, hcompletions, hstate⟩ := hsame
  exact h.keep hsupervisor hpending hcompletions hstate hquiet rfl rfl nofun

/-- A message of the Driver goes to the application, if it finds a place. -/
theorem delivers {l : LoopLocals κ} (h : Told past ⟨s, l⟩)
    {input : DriverInput (RuntimeCompletion (LifecycleCommand κ))}
    (hordinary : input = .takeInbound ∨ input = .takeProtocolError) (delivery : Delivery)
    (handover : Handover)
    {effect : EndpointEffect κ} (hquiet : effect.tells = false) :
    Told (past ++ (during s (.turn (.driver input)) ++ [effect]))
      ⟨{ after s (.turn (.driver input)) with delivery := delivery },
        { l with handover := handover }⟩ := by
  rw [← List.append_assoc]
  have hpermitted : (SupervisorInput.turn (W := W) (.driver input)).Permitted ⟨s, l⟩ := hordinary
  have htaken := h.supervise hpermitted l.handover
  refine htaken.keep rfl rfl rfl rfl (fun other hmem => ?_) rfl rfl fun c hc =>
    List.mem_append_left _ (htaken.taken c (Or.inl hc))
  rw [List.mem_singleton.mp hmem]
  exact hquiet

omit [WriterIngress W] in
/-- `receive` answers. -/
theorem answer {command : LifecycleCommand κ} {result : LifecycleResult}
    (h : Told past ⟨s, some command, waiting, none, handover⟩)
    (answers : command.intent.Answers s result) :
    Told (past ++ [.completed command.emptied result]) ⟨s, none, waiting, none, handover⟩ := by
  refine h.tell rfl h.pending (fun _ hmem => hmem) rfl rfl ?_ (fun _ hc => hc) (Or.inl rfl) nofun
  refine h.acknowledged.completions [(command.emptied, result)] fun completion hmem => ?_
  rw [List.mem_singleton.mp hmem]
  exact Or.inr ⟨command, h.taken command (Or.inl rfl), rfl, h.acknowledged_of_answers answers⟩

omit [WriterIngress W] in
/-- A command is put off. -/
theorem wait {command : LifecycleCommand κ}
    (h : Told past ⟨s, some command, waiting, none, handover⟩)
    (waits : command.intent.Waits s) :
    Told past ⟨{ s with pending := s.pending ++ [command.emptied] }, none, waiting ++ [command],
      none, handover⟩ where
  steady := h.steady
  pending := by
    rw [List.map_append]
    exact congrArg (· ++ [command.emptied]) h.pending
  taken c hc := by
    rcases hc with hc | hc
    · cases hc
    · rcases List.mem_append.mp hc with hc | hc
      · exact h.taken c (Or.inr hc)
      · exact h.taken c (Or.inl (congrArg some (List.mem_singleton.mp hc).symm))
  waits _ c hc := by
    rcases List.mem_append.mp hc with hc | hc
    · exact (h.waits rfl c hc).of_slot id rfl rfl
    · rw [List.mem_singleton.mp hc]
      exact waits.of_slot id rfl rfl
  exits := nofun
  outbox := h.outbox
  shown := h.shown
  acknowledged := h.acknowledged
  stopped := h.stopped

omit [WriterIngress W] in
/-- The outbox is released. -/
theorem settle (h : Told past ⟨s, hand, waiting, exit, handover⟩) :
    Told (past ++ s.completions.map fun completion =>
      .completed completion.command completion.result)
      ⟨{ s with completions := [] }, hand, waiting, exit, handover⟩ := by
  have hsettled : (s.completions.map fun completion =>
      EndpointEffect.completed completion.command completion.result) =
      (s.completions.map fun completion => (completion.command, completion.result)).map
        fun completion => .completed completion.1 completion.2 := by
    rw [List.map_map]
    rfl
  refine h.tell rfl h.pending (fun _ hmem => absurd hmem List.not_mem_nil) rfl ?_ ?_
    (fun _ hc => hc)
    (Or.inl rfl) fun c hc => List.mem_append_left _ (h.taken c (Or.inl hc))
  · refine List.filterMap_eq_nil_iff.mpr fun effect hmem => ?_
    obtain ⟨_, -, rfl⟩ := List.mem_map.mp hmem
    rfl
  · rw [hsettled]
    refine h.acknowledged.completions _ fun completion hmem => ?_
    obtain ⟨published, hpublished, rfl⟩ := List.mem_map.mp hmem
    exact Or.inl (h.outbox published hpublished)

omit [WriterIngress W] in
/-- The commands that have waited get what they have waited for. -/
theorem acknowledge {closed : SessionExit} (h : Told past ⟨s, none, waiting, some closed, handover⟩)
    (published : s.Published) (recorded : s.lastExit = some closed.report)
    {result : LifecycleResult}
    (hresult : (if closed.cleanup =
      .clean then .ok .closed else .error .cleanupUnproven) = result) :
    Told (past ++ s.pending.map (.completed · result)) ⟨{ s with pending := [] }, none, [], none,
      handover⟩ := by
  have hwaiting : s.pending.map (EndpointEffect.completed · result) =
      (waiting.map fun command => (command.emptied, result)).map
        fun completion => .completed completion.1 completion.2 := by
    rw [show s.pending = waiting.map LifecycleCommand.emptied from h.pending, List.map_map,
      List.map_map]
    rfl
  refine h.tell rfl rfl (fun _ hmem => hmem) rfl ?_ ?_ (fun _ hc => absurd hc List.not_mem_nil)
    (Or.inr ⟨rfl, rfl⟩) nofun
  · refine List.filterMap_eq_nil_iff.mpr fun effect hmem => ?_
    obtain ⟨_, -, rfl⟩ := List.mem_map.mp hmem
    rfl
  · rw [hwaiting]
    refine h.acknowledged.completions _ fun completion hmem => ?_
    obtain ⟨command, hcommand, rfl⟩ := List.mem_map.mp hmem
    refine Or.inr ⟨command, h.taken command (Or.inr hcommand), rfl, ?_⟩
    rw [← hresult]
    exact h.acknowledged_of_leaves published recorded ((h.exits closed rfl).2.2 command hcommand)

omit [WriterIngress W] in
/-- A command of the channel is refused. -/
theorem refuse (h : Told past ⟨s, none, waiting, exit, handover⟩) (command : LifecycleCommand κ) :
    Told (past ++ [.received (some command), .completed command.emptied command.stoppedResult])
      ⟨{ s with commands := s.commands.pop }, none, waiting, exit, handover⟩ := by
  refine h.tell rfl h.pending (fun _ hmem => hmem) rfl rfl ?_ (fun _ hc => hc) (Or.inl rfl) nofun
  have hreceived : AllAcknowledged (past ++ [.received (some command)]) :=
    h.acknowledged.quiet fun _ _ hmem => by simp at hmem
  rw [List.append_cons]
  refine hreceived.completions [(command.emptied, command.stoppedResult)] fun completion hmem => ?_
  rw [List.mem_singleton.mp hmem]
  exact Or.inr ⟨command, List.mem_append_right _ List.mem_cons_self, rfl,
    acknowledged_of_stopped command⟩

omit [WriterIngress W] in
/-- The commands that wait are dropped with the runtime. -/
theorem abandon (h : Told past ⟨s, none, waiting, exit, handover⟩) :
    Told (past ++ s.pending.map .abandoned)
    ⟨{ s with commands := { s.commands with closed := true }, pending := [] }, none, [], none,
      handover⟩ := by
  have hquiet : ∀ effect ∈ s.pending.map EndpointEffect.abandoned, effect.tells = false := by
    intro effect hmem
    obtain ⟨_, -, rfl⟩ := List.mem_map.mp hmem
    rfl
  exact h.tell rfl rfl (fun _ hmem => hmem) rfl (snapshot_of_quiet hquiet)
    (h.acknowledged.quiet fun _ _ hmem => nomatch hquiet _ hmem)
    (fun _ hc => absurd hc List.not_mem_nil)
    (Or.inr ⟨rfl, rfl⟩) nofun

omit [WriterIngress W] in
/-- One effect that tells nobody. -/
theorem remark {handover' : Handover} (h : Told past ⟨s, hand, waiting, exit, handover⟩)
    {effect : EndpointEffect κ}
    (hquiet : effect.tells = false) (hsupervisor : s'.supervisor = s.supervisor)
    (hpending : s'.pending = s.pending)
    (hcompletions : s'.completions = s.completions) (hstate : s'.state = s.state) :
    Told (past ++ [effect]) ⟨s', hand, waiting, exit, handover'⟩ := by
  refine h.keep hsupervisor hpending hcompletions hstate (fun other hmem => ?_) rfl rfl fun c hc =>
    List.mem_append_left _ (h.taken c (Or.inl hc))
  rw [List.mem_singleton.mp hmem]
  exact hquiet

omit [WriterIngress W] in
/-- Nothing that anybody is told. -/
theorem silence {handover' : Handover} (h : Told past ⟨s, hand, waiting, exit, handover⟩)
    (hsupervisor : s'.supervisor = s.supervisor)
    (hpending : s'.pending = s.pending) (hcompletions : s'.completions = s.completions)
    (hstate : s'.state = s.state) : Told (past ++ []) ⟨s', hand, waiting, exit, handover'⟩ :=
  h.keep hsupervisor hpending hcompletions hstate
    (fun _ hmem => absurd hmem List.not_mem_nil) rfl rfl
    fun c hc => List.mem_append_left _ (h.taken c (Or.inl hc))

omit [WriterIngress W] in
/-- Whatever becomes of the command in the hand. -/
theorem release (h : Told past ⟨s, hand, waiting, exit, handover⟩) :
    Told past ⟨s, none, waiting, exit, handover⟩ :=
  { h with taken := fun c hc => h.taken c (Or.inr (hc.resolve_left nofun)) }

/-- **Every step keeps the books.**  One lemma for each kind of step; together they are the whole
loop. -/
theorem step {stage stage' : EndpointStage W κ} (h : Told past stage)
    (hstep : EndpointStep stage effects stage') : Told (past ++ effects) stage' := by
  cases hstep with
  | supervise input permitted _ => exact h.supervise permitted _
  | finish now cleanup sound _ exits => exact h.finish exits
  | unfinished now cleanup _ stays => exact h.unfinished stays
  | deliverPrimary primary delivery taken delivered _ => exact h.delivers (Or.inl rfl) _ _ rfl
  | deliverError error delivery taken delivered _ => exact h.delivers (Or.inr rfl) _ _ rfl
  | drain empty _ => exact h.silence rfl rfl rfl rfl
  | receive queue =>
    refine h.keep rfl rfl rfl rfl (fun effect hmem => ?_) rfl rfl fun c hc => ?_
    · rw [List.mem_singleton.mp hmem]
      rfl
    · exact List.mem_append_right _ (Option.some.inj hc ▸ List.mem_cons_self)
  | hangUp queue => exact h.remark rfl rfl rfl rfl rfl
  | quit => exact h.silence rfl rfl rfl rfl
  | handOver input sound _ holder calls => exact h.handOver calls
  | answer result answers => exact h.answer answers
  | wait waits =>
    rw [List.append_nil]
    exact h.wait waits
  | lose => exact h.release.remark rfl rfl rfl rfl rfl
  | publish sequence next => exact h.shows h.observed_stoppedClean
  | settle => exact h.settle
  | record report => exact h.silence rfl rfl rfl rfl
  | acknowledge published recorded => exact h.acknowledge published recorded rfl
  | diagnose event => exact h.remark rfl rfl rfl rfl rfl
  | prefer preference => exact h.silence rfl rfl rfl rfl
  | returns result => exact h.remark rfl rfl rfl rfl rfl
  | orphan snapshot faulted => exact h.shows fun hphase => nomatch faulted.symm.trans hphase
  | refuse queue => exact h.refuse _
  | abandon => exact h.abandon
  | apply input => exact h.apply input

omit [WriterIngress W] in
/-- A new endpoint. -/
theorem new (config : EndpointConfig) (handover : Handover) :
    Told (W := W) (κ := κ) [] ⟨.new config, none, [], none, handover⟩ where
  steady := fun _ g hcurrent => absurd hcurrent (Option.some_ne_none g).symm
  pending := rfl
  taken _ hc := hc.elim nofun fun hc => absurd hc List.not_mem_nil
  waits _ _ hc := absurd hc List.not_mem_nil
  exits := nofun
  outbox _ hmem := absurd hmem List.not_mem_nil
  shown := rfl
  acknowledged := .nil
  stopped _ hmem := absurd hmem List.not_mem_nil

end Told

/-- **What an endpoint acknowledges is true of the state that its handles read.**  In every run each
result of a command is one that the Driver has put into the outbox, or it follows the snapshot that
bears it out; a handle reads `StoppedClean` only of an endpoint that is stopped, without a
generation and without a session; and between two turns every command that waits has been received,
and waits for the generation in a slot without a fault. -/
theorem acknowledgements_are_true [WriterIngress W] (config : EndpointConfig)
    (inputs : List (LoopInput W κ)) :
    AllAcknowledged (EndpointLoop.machine.history (.new config) inputs) ∧
      (∀ snapshot, .published snapshot ∈ EndpointLoop.machine.history
        (.new (W := W) config) inputs →
        snapshot.phase = .stoppedClean →
          snapshot.desired = .stopped ∧ snapshot.generation = .none ∧ snapshot.session = none) ∧
      shownIn (EndpointLoop.machine.history (.new config) inputs) =
        (EndpointLoop.machine.after (.new config) inputs).runtime.state ∧
      ∃ waiting : List (LifecycleCommand κ),
        (EndpointLoop.machine.after (.new config) inputs).runtime.pending =
          waiting.map LifecycleCommand.emptied ∧
        ∀ c ∈ waiting, .received (some c) ∈ EndpointLoop.machine.history (.new config) inputs ∧
          c.intent.Waits (EndpointLoop.machine.after (.new config) inputs).runtime := by
  have hnew : Told [] ⟨(EndpointLoop.new (W := W) (κ := κ) config).runtime, none, [],
      none, .served⟩ :=
    .new config .served
  obtain ⟨locals, hrests, htold⟩ := EndpointLoop.invariant_history
    (fun _ _ _ _ h hstep => Told.step h hstep) hnew rfl inputs
  exact ⟨htold.acknowledged, htold.stopped, htold.shown, locals.waiting, htold.pending, fun c hc =>
    ⟨htold.taken c (Or.inr hc), htold.waits hrests.exit c hc⟩⟩

end Hsms
end SecsRust
