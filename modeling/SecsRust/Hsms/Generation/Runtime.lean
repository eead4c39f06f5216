import SecsRust.Hsms.Generation.Driver.Step
import SecsRust.Hsms.Generation.Transport.Tasks

/-!
# One connected generation

`GenerationRuntime` of `hsms/generation/runtime.rs`: it selects one input at a time for the
Driver, adds the deadlines of a graceful close, and reports how the generation has ended.

The transport tasks are the surroundings here: what their owner hands out is an argument of
the operations, and so are the readings of the clock, each counted from the epoch.  An
`await` that is dropped shows as an argument that is missing.  What is left are the Driver,
the preference between commands and events of the transport, and the drain of a shutdown
that has begun.

## A run of a generation is a run of its Driver

Whatever an operation does to the protocol it does by calls of the Driver.  `Drives` says so
of two rounds: there are inputs after which the Driver of the second is that of the first,
and the effects in between are those of these inputs.  It composes and holds of every
operation, so a fact about every run of a Driver is a fact about every run of a generation.

The reports of `close` and of `recover_cleanup` name the generation they are about
(`close_exit`, `recoverCleanup_exit`); for the supervisor this ties an exit to the
generation in its slot.
-/

namespace SecsRust
namespace Hsms

universe u v

/-- `RuntimeCompletion`: the endpoint of a command of the application, or none for a command of
the generation itself. -/
inductive RuntimeCompletion (κ : Type v) where
  | application (completion : κ)
  | internal

/-- `RoundInput`: the one thing that a round deals with. -/
inductive RoundInput where
  | shutdown
  | io (event : Option IoEvent)
  | timer
  | command

/-- `ShutdownDrain`: a graceful close that has begun, with its two deadlines and whether the
session has been told. -/
structure ShutdownDrain where
  reason : GenerationCloseReason
  drainDeadline : MonoTime
  shutdownDeadline : MonoTime
  finalizing : Bool
  deriving DecidableEq

/-- `GenerationRuntime`, without the transport tasks, which are its surroundings here. -/
structure GenerationRuntime (W : Type u) (κ : Type v) where
  generation : ConnectionGeneration
  driver : SessionDriver W (RuntimeCompletion κ)
  preferCommand : Bool
  policy : RuntimePolicy
  shutdown : Option ShutdownDrain

/-- The readings of the clock in one round: its own, and the two of `advance_shutdown`. -/
structure Readings where
  now : MonoTime
  checked : MonoTime
  logical : MonoTime

/-- What the polls of one `step` see: the time, what `poll_terminal` and `poll_next` return. -/
structure Polls where
  now : MonoTime
  terminal : Option IoEvent
  next : Poll (Option IoEvent)

/-- How the cleanup of the transport tasks goes: the write reports that it settles, each with the
time of its settlement; its result, unless it is dropped; and the time at which the Writer is found
joined. -/
structure Cleanup where
  settled : List (WriterReport × MonoTime)
  result : Option CleanupResult
  joined : Option MonoTime

namespace SessionDriver

variable {W : Type u} {κ : Type v} (driver : SessionDriver W κ)

/-- `close_reason`: why the Driver closes, if it does. -/
def closeReason : Option GenerationCloseReason := driver.closing.map ClosingState.reason

/-- `shutdown_drain_ready`: no command, no reply and no frame is left to wait for. -/
def shutdownDrainReady : Bool :=
  driver.acceptedCommands.isEmpty && driver.core.openCommands.isEmpty &&
    driver.core.replyContracts.isEmpty && driver.admittedWrites = ∅

end SessionDriver

namespace GenerationRuntime

variable {W : Type u} {κ : Type v} (runtime : GenerationRuntime W κ)

/-- `is_draining`: the generation is on its way out, gracefully or not. -/
def isDraining : Bool := runtime.shutdown.isSome || runtime.driver.closeReason.isSome

/-- The shutdown deadline that `step` waits for. -/
def shutdownDeadline : Option MonoTime :=
  runtime.shutdown.map fun drain =>
    if drain.finalizing then drain.shutdownDeadline else drain.drainDeadline

/-- The deadline that `step` waits for. -/
def deadline : Option MonoTime :=
  match runtime.driver.core.nextDeadline, runtime.shutdownDeadline with
  | some core, some shutdown => some (min core shutdown)
  | some deadline, none | none, some deadline => some deadline
  | none, none => none

/-- The input that `step` selects, if any. -/
def selectInput (polls : Polls) : Option RoundInput :=
  let commandReady := !runtime.driver.acceptedCommands.isEmpty
  match polls.terminal with
  | some event => some (.io (some event))
  | none =>
    if runtime.deadline.any fun deadline => deadline ≤ polls.now then some .timer
    else if runtime.shutdown.any
      (fun drain => !drain.finalizing) && runtime.driver.shutdownDrainReady then
      some .shutdown
    else if runtime.preferCommand && commandReady then some .command
    else
      match polls.next with
      | .ready event => some (.io event)
      | .pending => if commandReady then some .command else none

end GenerationRuntime

/-- A generation under mutation together with the effects of its Driver so far. -/
structure GenerationRound (W : Type u) (κ : Type v) where
  runtime : GenerationRuntime W κ
  effects : List (DriverEffect (RuntimeCompletion κ))

namespace GenerationRound

variable {W : Type u} {κ : Type v} [WriterIngress W]

/-- The beginning of an operation, before any effect. -/
def start (runtime : GenerationRuntime W κ) : GenerationRound W κ := ⟨runtime, []⟩

/-- A call of the Driver, whose effects are those of the operation. -/
def call (r : GenerationRound W κ) (input : DriverInput (RuntimeCompletion κ)) :
    GenerationRound W κ :=
  let answer := SessionDriver.machine.step r.runtime.driver input
  ⟨{ r.runtime with driver := answer.1 }, r.effects ++ answer.2⟩

/-- A mutation of the generation's own fields. -/
def note (r : GenerationRound W κ) (preferCommand : Bool) (shutdown : Option ShutdownDrain) :
    GenerationRound W κ :=
  { r with runtime := { r.runtime with preferCommand := preferCommand, shutdown := shutdown } }

/-- `begin_graceful_close`, at the two readings of its clock. -/
def beginGracefulClose (r : GenerationRound W κ) (reason : GenerationCloseReason)
    (now logical : MonoTime) : GenerationRound W κ :=
  if r.runtime.shutdown.isSome || r.runtime.driver.closeReason.isSome then r
  else
    let r := r.call .beginShutdownDrain
    match now.checkedAdd r.runtime.policy.drain, now.checkedAdd r.runtime.policy.shutdown with
    | some drain, some shutdown =>
      r.note r.runtime.preferCommand (some ⟨reason, min drain shutdown, shutdown, false⟩)
    | _, _ => r.call (.shutdown .runtimeInvariant none logical)

/-- `advance_shutdown`: the outer deadline forces the close; the inner one, or an empty Driver,
ends the drain, once. -/
def advanceShutdown (r : GenerationRound W κ) (now logical : MonoTime) : GenerationRound W κ :=
  match r.runtime.shutdown with
  | none => r
  | some drain =>
    if drain.shutdownDeadline ≤ now then r.call (.shutdown drain.reason none logical)
    else if !drain.finalizing &&
        (drain.drainDeadline ≤ now || r.runtime.driver.shutdownDrainReady) then
      (r.note r.runtime.preferCommand (some { drain with finalizing := true })).call
        (.finishShutdownDrain drain.reason logical)
    else r

/-- `apply_write_report`: a report of a frame that was never admitted fails the generation. -/
def applyWriteReport (r : GenerationRound W κ) (report : WriterReport) (now : MonoTime) :
    GenerationRound W κ :=
  if report.writeId ∈ r.runtime.driver.admittedWrites then
    r.call (.writeOutcome report.writeId report.outcome report.occurredAt now)
  else r.call (.shutdown .runtimeInvariant none now)

/-- The reason for which the end of the Reader closes the generation. -/
def readerReason : Except JoinError (Except ReadFailure Unit) → GenerationCloseReason
  | .error _ | .ok (.error .deadlineOverflow) => .runtimeInvariant
  | .ok (.error .intercharacterTimeout) => .communicationsTimeout .t8
  | .ok (.error (.framing _)) => .protocolViolation
  | _ => .transportLost

/-- The reason for which the end of the Writer closes the generation. -/
def writerReason : Except JoinError Unit → GenerationCloseReason
  | .error _ => .runtimeInvariant
  | .ok _ => .transportLost

/-- `apply_round` for an event of the transport tasks. -/
def applyEvent (r : GenerationRound W κ) (event : Option IoEvent) (now : MonoTime) :
    GenerationRound W κ :=
  match event with
  | some (.read report) =>
    if report.frame.occurredAt > now then r.call (.shutdown .runtimeInvariant none now)
    else r.call (.decoded report.frame.decoded (some report.frame.header.bytes) now)
  | some (.write report) => r.applyWriteReport report now
  | some (.readerStopped result) => r.call (.shutdown (readerReason result) none now)
  | some (.writerStopped result) =>
    (r.call (.shutdown (writerReason result) none now)).call (.writerStopped now)
  | none => r.call (.shutdown .runtimeInvariant none now)

/-- The capacity that a round samples. -/
def sampleCapacity (r : GenerationRound W κ) (capacity : Option (ℕ × ℕ)) : GenerationRound W κ :=
  match capacity with
  | some (primaries, errors) => r.call (.setDeliveryCapacity primaries errors)
  | none => r

/-- `apply_round`: the room for deliveries is sampled first, and the input noted for the next
selection. -/
def applyRound (r : GenerationRound W κ) (input : RoundInput) (capacity : Option (ℕ × ℕ))
    (readings : Readings) : GenerationRound W κ :=
  let r := r.sampleCapacity capacity
  match input with
  | .shutdown => r.advanceShutdown readings.checked readings.logical
  | .io event => (r.note true r.runtime.shutdown).applyEvent event readings.now
  | .timer => (r.call (.advanceTime readings.now)).advanceShutdown readings.checked readings.logical
  | .command => (r.note false r.runtime.shutdown).call (.driveNextCommand readings.now)

/-- `step_with_delivery_capacity`; a step that selects nothing still waits, or is dropped. -/
def step (r : GenerationRound W κ) (polls : Polls) (capacity : Option (ℕ × ℕ))
    (readings : Readings) :
    GenerationRound W κ :=
  if r.runtime.driver.transportClosed then r
  else
    match r.runtime.selectInput polls with
    | none => r
    | some input => r.applyRound input capacity readings

/-- `process_ready_priority`, with what `poll_terminal` returns: terminal facts and due deadlines
before a command is looked at. -/
def processReadyPriority (r : GenerationRound W κ) (terminal : Option IoEvent)
    (first second : Readings) : GenerationRound W κ :=
  if r.runtime.driver.transportClosed then r
  else
    let r := match terminal with
      | some event => r.applyRound (.io (some event)) none first
      | none => r
    if r.runtime.driver.transportClosed then r else r.applyRound .timer none second

/-- `force_close`: shuts the Driver down at once. -/
def forceClose (r : GenerationRound W κ) (reason : GenerationCloseReason) (now : MonoTime) :
    GenerationRound W κ :=
  r.call (.shutdown reason none now)

/-- The part that `close` and `recover_cleanup` share: admission is closed, the reports that the
cleanup of the tasks hands out are settled, and the rest is finalized once the Writer is joined. -/
def cleanUp (r : GenerationRound W κ) (reason : GenerationCloseReason) (now : MonoTime)
    (cleanup : Cleanup) : GenerationRound W κ :=
  let r := r.forceClose reason now
  let r := cleanup.settled.foldl (fun r settled => r.applyWriteReport settled.1 settled.2) r
  match cleanup.result, cleanup.joined with
  | some _, some now => r.call (.writerStopped now)
  | _, _ => r

/-- `close`, with its report unless it is dropped. -/
def close (r : GenerationRound W κ) (reason : GenerationCloseReason) (now : MonoTime)
    (cleanup : Cleanup) : GenerationRound W κ × Option SessionExit :=
  let r := r.cleanUp reason now cleanup
  (r, cleanup.result.map fun result =>
    ⟨r.runtime.generation, r.runtime.driver.closeReason.getD reason, result⟩)

/-- `finish`; its deadline is one of the cleanup. -/
def finish (r : GenerationRound W κ) (now : MonoTime) (cleanup : Cleanup) :
    GenerationRound W κ × Option SessionExit :=
  let reason := (r.runtime.driver.closeReason <|> r.runtime.shutdown.map ShutdownDrain.reason).getD
    .runtimeInvariant
  r.close reason now cleanup

/-- `recover_cleanup`: the cleanup once more, for a generation whose first one was poisoned. -/
def recoverCleanup (r : GenerationRound W κ) (now : MonoTime) (cleanup : Cleanup) :
    GenerationRound W κ × Option SessionExit :=
  let reason := r.runtime.driver.closeReason.getD .runtimeInvariant
  let r := r.cleanUp reason now cleanup
  (r, cleanup.result.map fun result => ⟨r.runtime.generation, reason, result⟩)

end GenerationRound

namespace GenerationRuntime

variable {W : Type u} {κ : Type v} [WriterIngress W]

/-- `from_transport`, for a configuration that is validated at the instant `now`. -/
def fromTransport (generation : ConnectionGeneration) (tokenOwner : ℕ) (config : EndpointConfig)
    (writer : W) (now : MonoTime) : Except ConfigError (GenerationRound W κ) :=
  match SessionDriver.fromConfig generation tokenOwner config writer now with
  | .error error => .error error
  | .ok driver =>
    let r := (GenerationRound.start ⟨generation, driver, false, config.runtime, none⟩).call
      (.connected .zero)
    if config.mode = .active && config.runtime.autoSelect then
      let r := r.call (.acceptControl .select .internal)
      -- a fresh Driver always has room for its first command
      if r.runtime.driver.acceptedCommands.isEmpty then
        .ok (r.call (.shutdown .runtimeInvariant none .zero))
      else .ok r
    else .ok r

/-- `from_stream`, with what `IoTasks::launch` has come to. -/
def fromStream (launched : Except ConfigError W) (generation : ConnectionGeneration)
    (tokenOwner : ℕ)
    (config : EndpointConfig) (now : MonoTime) : Except ConfigError (GenerationRound W κ) :=
  match config.validate now with
  | .error error => .error error
  | .ok () =>
    match launched with
    | .error error => .error error
    | .ok writer => fromTransport generation tokenOwner config writer now

end GenerationRuntime

/-! ## A run of a generation is a run of its Driver -/

namespace GenerationRound

variable {W : Type u} {κ : Type v} [WriterIngress W] {r r' r'' : GenerationRound W κ}

/-- The second round continues the first by calls of the Driver alone. -/
structure Drives (r r' : GenerationRound W κ) : Prop where
  calls : ∃ inputs, r'.runtime.driver = SessionDriver.machine.after r.runtime.driver inputs ∧
    r'.effects = r.effects ++ SessionDriver.machine.history r.runtime.driver inputs
  generation : r'.runtime.generation = r.runtime.generation
  policy : r'.runtime.policy = r.runtime.policy

namespace Drives

theorem refl (r : GenerationRound W κ) : Drives r r :=
  ⟨⟨[], rfl, (List.append_nil _).symm⟩, rfl, rfl⟩

theorem trans (h : Drives r r') (h' : Drives r' r'') : Drives r r'' where
  calls := by
    obtain ⟨inputs, hdriver, heffects⟩ := h.calls
    obtain ⟨inputs', hdriver', heffects'⟩ := h'.calls
    refine ⟨inputs ++ inputs', ?_, ?_⟩
    · rw [hdriver', hdriver, Machine.after_append]
    · rw [heffects', heffects, hdriver, Machine.history_append, List.append_assoc]
  generation := h'.generation.trans h.generation
  policy := h'.policy.trans h.policy

theorem call (r : GenerationRound W κ) (input : DriverInput (RuntimeCompletion κ)) :
    Drives r (r.call input) :=
  ⟨⟨[input], rfl, by rw [Machine.history_cons, Machine.history_nil, List.append_nil]; rfl⟩, rfl,
    rfl⟩

theorem note (r : GenerationRound W κ) (preferCommand : Bool) (shutdown : Option ShutdownDrain) :
    Drives r (r.note preferCommand shutdown) :=
  ⟨⟨[], rfl, (List.append_nil _).symm⟩, rfl, rfl⟩

theorem beginGracefulClose (r : GenerationRound W κ) (reason : GenerationCloseReason)
    (now logical : MonoTime) : Drives r (r.beginGracefulClose reason now logical) := by
  unfold GenerationRound.beginGracefulClose
  split
  · exact .refl r
  · dsimp only
    split
    · exact (call r _).trans (note _ _ _)
    · exact (call r _).trans (call _ _)

theorem advanceShutdown (r : GenerationRound W κ) (now logical : MonoTime) :
    Drives r (r.advanceShutdown now logical) := by
  unfold GenerationRound.advanceShutdown
  split
  · exact .refl r
  · split
    · exact call r _
    · split
      · exact (note r _ _).trans (call _ _)
      · exact .refl r

theorem applyWriteReport (r : GenerationRound W κ) (report : WriterReport) (now : MonoTime) :
    Drives r (r.applyWriteReport report now) := by
  unfold GenerationRound.applyWriteReport
  split <;> exact call r _

theorem applyEvent (r : GenerationRound W κ) (event : Option IoEvent) (now : MonoTime) :
    Drives r (r.applyEvent event now) := by
  unfold GenerationRound.applyEvent
  split
  · split <;> exact call r _
  · exact applyWriteReport r _ now
  · exact call r _
  · exact (call r _).trans (call _ _)
  · exact call r _

theorem sampleCapacity (r : GenerationRound W κ) (capacity : Option (ℕ × ℕ)) :
    Drives r (r.sampleCapacity capacity) := by
  unfold GenerationRound.sampleCapacity
  split
  · exact call r _
  · exact .refl r

theorem applyRound (r : GenerationRound W κ) (input : RoundInput) (capacity : Option (ℕ × ℕ))
    (readings : Readings) : Drives r (r.applyRound input capacity readings) := by
  refine (sampleCapacity r capacity).trans ?_
  cases input with
  | shutdown => exact advanceShutdown _ _ _
  | io event => exact (note _ _ _).trans (applyEvent _ _ _)
  | timer => exact (call _ _).trans (advanceShutdown _ _ _)
  | command => exact (note _ _ _).trans (call _ _)

theorem step (r : GenerationRound W κ) (polls : Polls) (capacity : Option (ℕ × ℕ))
    (readings : Readings) : Drives r (r.step polls capacity readings) := by
  unfold GenerationRound.step
  split
  · exact .refl r
  · split
    · exact .refl r
    · exact applyRound r _ capacity readings

theorem processReadyPriority (r : GenerationRound W κ) (terminal : Option IoEvent)
    (first second : Readings) : Drives r (r.processReadyPriority terminal first second) := by
  unfold GenerationRound.processReadyPriority
  split
  · exact .refl r
  · dsimp only
    cases terminal with
    | some event =>
      dsimp only
      split
      · exact applyRound r _ none first
      · exact (applyRound r _ none first).trans (applyRound _ _ none second)
    | none =>
      dsimp only
      split
      · exact .refl r
      · exact applyRound r _ none second

theorem settle (r : GenerationRound W κ) (settled : List (WriterReport × MonoTime)) :
    Drives r (settled.foldl (fun r settled => r.applyWriteReport settled.1 settled.2) r) := by
  induction settled generalizing r with
  | nil => exact .refl r
  | cons report settled ih => exact (applyWriteReport r report.1 report.2).trans (ih _)

theorem cleanUp (r : GenerationRound W κ) (reason : GenerationCloseReason) (now : MonoTime)
    (cleanup : Cleanup) : Drives r (r.cleanUp reason now cleanup) := by
  have hsettled := (call r (.shutdown reason none now)).trans (settle _ cleanup.settled)
  unfold GenerationRound.cleanUp
  dsimp only
  split
  · exact hsettled.trans (call _ _)
  · exact hsettled

end Drives

/-- The report of `close` names its generation. -/
theorem close_exit {reason : GenerationCloseReason} {now : MonoTime} {cleanup : Cleanup}
    {exit : SessionExit} (h : (r.close reason now cleanup).2 = some exit) :
    exit.generation = r.runtime.generation ∧ cleanup.result = some exit.cleanup := by
  obtain ⟨result, hresult, rfl⟩ := Option.map_eq_some_iff.mp h
  exact ⟨(Drives.cleanUp r reason now cleanup).generation, hresult⟩

theorem recoverCleanup_exit {now : MonoTime} {cleanup : Cleanup} {exit : SessionExit}
    (h : (r.recoverCleanup now cleanup).2 = some exit) :
    exit.generation = r.runtime.generation ∧ cleanup.result = some exit.cleanup := by
  obtain ⟨result, hresult, rfl⟩ := Option.map_eq_some_iff.mp h
  exact ⟨(Drives.cleanUp r _ now cleanup).generation, hresult⟩

end GenerationRound

end Hsms
end SecsRust
