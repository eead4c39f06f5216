import SecsRust.Hsms.Endpoint.Diagnostics
import SecsRust.Hsms.Endpoint.Handle
import SecsRust.Hsms.Endpoint.Receiver

/-!
# The endpoint loop

`HsmsRuntime` of `hsms/endpoint/runtime.rs`: the future that owns the supervisor, takes the
commands of the handles one at a time, publishes the state and hands inbound messages to the
application.

The loop waits at one place in each turn.  Between two waits nothing else touches what it
owns, so a turn is two steps here: `advance`, which publishes up to the wait, and `resume`,
which goes on with what the wait brings.  In between the application submits commands and
receives.  A wait that is never answered, wherever it is, ends with the runtime dropped.  A
poll of the whole future is thus not one step but as many as it passes waits, and what
happens at the other end of the channels may fall between any two.

## What is shared

The channel of `LifecycleCommand`s is part of the model (`CommandChannel`), since what is in
it when the runtime is dropped has to be completed as well.  The semaphores of the handles
are not, and a command only carries what it has taken from them.  The published state is an
effect: the watch channel keeps the last value, and nothing here reads it back.

## The outbox

The Driver completes commands while the supervisor runs, and the loop must not pass a result
on before the state that it bears out has been published.  So results go to an outbox first,
and `publish` releases it (`settle`).  In the model the effects of an operation of the
supervisor are read for what the Driver puts into the outbox and for what it reports to the
observer (`outbox`, `notified`), and for the value that the operation returns (`startResult`
and its siblings).
-/

namespace SecsRust
namespace Hsms

open Secs2

universe u v

/-! ## Commands -/

/-- `LifecycleIntent`: what a handle asks of the endpoint.  What concerns a connection names its
generation, so that it cannot reach a later one. -/
inductive LifecycleIntent where
  | reply (generation : ConnectionGeneration) (intent : ReplyIntent) (token : ReplyToken)
      (body : Option SecsItem)
  | data (generation : ConnectionGeneration) (message : PrimaryMessage) (replyExpected : Bool)
  | control (generation : ConnectionGeneration) (intent : ControlIntent)
  | start
  | stop
  | disconnect (generation : Option ConnectionGeneration)

/-- `StartReceipt`: the endpoint runs, and a passive one listens at this address. -/
structure StartReceipt where
  localAddress : Option SocketAddr
  deriving DecidableEq

/-- `LifecycleReceipt`: what a command succeeds with.  A refusal that hands something back is one
of them. -/
inductive LifecycleReceipt where
  | rejectedReply (intent : ReplyIntent) (token : ReplyToken) (body : Option SecsItem)
      (error : EndpointError)
  | sent (receipt : SendReceipt)
  | secondary (message : SecondaryMessage)
  | rejectedPrimary (message : PrimaryMessage) (error : EndpointError)
  | started (receipt : StartReceipt)
  | closed

/-- What a command completes with. -/
abbrev LifecycleResult := Except EndpointError LifecycleReceipt

/-- `LifecycleCommand`; `completion` is the sending half of its `oneshot` channel.  It also
carries what it has taken from the semaphores of its handle. -/
structure LifecycleCommand (κ : Type v) where
  intent : LifecycleIntent
  completion : κ
  permit : CommandPermit

/-- The command without its intent, as `receive` leaves it. -/
def LifecycleCommand.emptied {κ : Type v} (command : LifecycleCommand κ) : LifecycleCommand κ :=
  { command with intent := .start }

/-- `PublishedCompletion`: a result that waits for the state to be published. -/
structure PublishedCompletion (κ : Type v) where
  command : LifecycleCommand κ
  result : LifecycleResult

/-- `Completion::complete`: what a Driver's result is to the command. -/
def DriverCommandResult.receipt : DriverCommandResult → LifecycleResult
  | primaryRejected message error => .ok (.rejectedPrimary message (.operation error))
  | replyRejected intent token body error =>
    .ok (.rejectedReply intent token body (.operation error))
  | control (.ok ()) => .ok .closed
  | control (.error error) => .error (.operation error)
  | send (.ok receipt) => .ok (.sent receipt)
  | send (.error error) => .error (.operation error)
  | request (.ok message) => .ok (.secondary message)
  | request (.error error) => .error (.operation error)

/-- The error of a Primary that the Driver has refused. -/
def DataAdmissionErrorKind.endpointError : DataAdmissionErrorKind → EndpointError
  | full => .backpressure
  | draining => .draining
  | closing => .operation .connectionLost
  | invalid error => .operation error

/-- The error of a control command that the Driver has refused. -/
def ControlAdmissionErrorKind.operationError : ControlAdmissionErrorKind → OperationError
  | full => .backpressure
  | draining => .draining
  | unsupportedIntent | closing => .connectionLost

/-- What the Driver puts into the outbox: the result of a command, or what `receive` makes of a
refusal. -/
def DriverEffect.published {κ : Type v} :
    DriverEffect (RuntimeCompletion (LifecycleCommand κ)) → Option (PublishedCompletion κ)
  | complete (.application command) result => some ⟨command, result.receipt⟩
  | replyRefused (.application command) result => some ⟨command, result.receipt⟩
  | dataRefused kind message (.application command) =>
    some ⟨command, .ok (.rejectedPrimary message kind.endpointError)⟩
  | controlRefused kind _ (.application command) =>
    some ⟨command, (DriverCommandResult.control (.error kind.operationError)).receipt⟩
  | _ => none

/-- `map_error`: an error of the supervisor in the terms of the application. -/
def SupervisorError.endpointError : SupervisorError → EndpointError
  | start (.bind error) | attempt (.transport error) => .io error
  | occupied => .draining
  | generationExhausted => .identifierExhausted
  | start (.config _) | attempt .timeout | attempt .deadlineOverflow | config _ | stopped | faulted
  | recoveryRequiresStop => .faulted

/-! ## The published state -/

/-- `RunningIntent`: what the application has asked for last. -/
inductive RunningIntent where
  | stopped
  | running
  deriving DecidableEq

/-- `EndpointPhase`: how far the endpoint is with it. -/
inductive EndpointPhase where
  | stoppedClean
  | starting
  | running
  | draining
  | faulted
  deriving DecidableEq

/-- `ConnectionExitReport`: how the last generation has ended. -/
structure ConnectionExitReport where
  generation : ConnectionGeneration
  reason : ConnectionCloseReason
  clean : Bool
  deriving DecidableEq

/-- `EndpointStateSnapshot`: the published state.  Its sequence grows with every change of the
rest. -/
structure EndpointStateSnapshot where
  desired : RunningIntent
  phase : EndpointPhase
  generation : GenerationSlotSnapshot
  sequence : UInt64
  session : Option SessionState
  lastExit : Option ConnectionExitReport
  deriving DecidableEq

/-- `stopped_clean`: the state of an endpoint that has not been started. -/
def EndpointStateSnapshot.stoppedClean : EndpointStateSnapshot where
  desired := .stopped
  phase := .stoppedClean
  generation := .none
  sequence := 0
  session := none
  lastExit := none

/-! ## The runtime -/

/-- The channel of the commands: what is in it, its capacity, whether a handle is left, and whether
the runtime has closed it. -/
structure CommandChannel (κ : Type v) where
  queue : List (LifecycleCommand κ)
  capacity : ℕ
  handles : Bool
  closed : Bool

/-- `HsmsRuntime`: the supervisor, the channels of the endpoint, and the commands and results
that wait. -/
structure HsmsRuntime (W : Type u) (κ : Type v) where
  supervisor : ConnectionSupervisor W (LifecycleCommand κ)
  commands : CommandChannel κ
  state : EndpointStateSnapshot
  pending : List (LifecycleCommand κ)
  active : Bool
  quitting : Bool
  preferCommands : Bool
  completions : List (PublishedCompletion κ)
  delivery : Delivery
  diagnostics : DiagnosticPublisher
  lastExit : Option ConnectionExitReport

/-- What the loop does to its surroundings, in order.  The order is part of what is promised: a
state is published before the results that it bears out. -/
inductive EndpointEffect (κ : Type v) where
  | supervisor (effect : SupervisorEffect (LifecycleCommand κ))
  -- a command or the end of the handles comes out of the channel
  | received (command : Option (LifecycleCommand κ))
  | completed (command : LifecycleCommand κ) (result : LifecycleResult)
  -- a waiting command is dropped with its channel
  | abandoned (command : LifecycleCommand κ)
  | published (snapshot : EndpointStateSnapshot)
  -- what `publish` takes from the Driver, and whether it finds a place
  | primary (primary : InboundPrimary) (queued : Bool)
  | protocolError (error : InboundProtocolError) (queued : Bool)
  | diagnostic (event : DiagnosticEvent)
  | returned (result : Except EndpointError Unit)
  -- what the application sees
  | refused (command : LifecycleCommand κ)
  | receivedPrimary (primary : InboundPrimary)
  | receivedError (error : InboundProtocolError)

/-- How an operation of the loop goes on: it can fail, and it can wait for what never comes. -/
inductive Flow where
  | goes
  | fails (error : EndpointError)
  | dropped
  deriving DecidableEq

namespace HsmsRuntime

variable {W : Type u} {κ : Type v}

/-- The generation in the slot. -/
def occupant (runtime : HsmsRuntime W κ) : Option ConnectionGeneration :=
  runtime.supervisor.current.map GenerationRuntime.generation

/-- The slot holds a generation whose transport is closed. -/
def slotClosed (runtime : HsmsRuntime W κ) : Bool :=
  runtime.supervisor.current.any fun runtime => runtime.driver.transportClosed

/-- What `publish_state` observes: everything but the sequence. -/
def observed (runtime : HsmsRuntime W κ) (sequence : UInt64) : EndpointStateSnapshot :=
  let current := runtime.supervisor.current
  let draining := current.any GenerationRuntime.isDraining
  { desired := if runtime.supervisor.running then .running else .stopped
    phase :=
      if runtime.supervisor.faulted then .faulted
      else if draining then .draining
      else if runtime.supervisor.running then .running
      else .stoppedClean
    generation := match current with
      | none => .none
      | some current => if draining then .draining current.generation else .open_ current.generation
    sequence := sequence
    session := current.bind fun current => current.driver.core.state
    lastExit := runtime.lastExit }

/-- The runtime that `HsmsEndpoint::build` makes for a validated configuration. -/
def new (config : EndpointConfig) : HsmsRuntime W κ where
  supervisor := .stopped config
  commands := ⟨[], config.limits.commandCapacity + config.runtime.replyCapacity + 1, true, false⟩
  state := .stoppedClean
  pending := []
  active := config.mode = .active
  quitting := false
  preferCommands := true
  completions := []
  delivery := .new config
  diagnostics := .new config.runtime.diagnosticCapacity
  lastExit := none

end HsmsRuntime

/-- A runtime under mutation together with the effects so far. -/
structure EndpointRound (W : Type u) (κ : Type v) where
  runtime : HsmsRuntime W κ
  effects : List (EndpointEffect κ)

/-- What a command meets while `receive` runs: the ready priority work, the readings of the clock,
and the answers to its waits. -/
structure Reception where
  terminal : Option IoEvent
  first : Readings
  second : Readings
  -- `begin_graceful_close`
  closing : MonoTime
  logical : MonoTime
  -- `start`
  validated : MonoTime
  prepared : MonoTime
  bound : Option (Except IoError SocketAddr)
  -- `recover_stopped`
  recovered : MonoTime
  cleanup : Cleanup
  -- `publish`
  published : MonoTime

/-! ## The answers of the supervisor -/

namespace SupervisorEffect

variable {κ : Type v}

/-- What the Driver puts into the outbox. -/
def outbox : SupervisorEffect (LifecycleCommand κ) → Option (PublishedCompletion κ)
  | driver _ effect => effect.published
  | _ => none

/-- What the Driver reports to the observer. -/
def notified : SupervisorEffect (LifecycleCommand κ) → Option DiagnosticEvent
  | driver _ (.notice generation notice) => some (.protocol generation notice)
  | _ => none

/-- What `start` returns, among the effects of the operation. -/
def startResult : SupervisorEffect κ → Option (Except SupervisorError Unit)
  | started result => some result
  | _ => none

/-- What `connect` returns, if it is not dropped. -/
def connectResult : SupervisorEffect κ → Option (Except SupervisorError Bool)
  | connected result => some result
  | _ => none

/-- What `step_current` returns, if it is not dropped. -/
def stepResult : SupervisorEffect κ → Option (Except IoError Unit)
  | stepped result => some result
  | _ => none

/-- What `recover_stopped` returns, if it is not dropped. -/
def recoverResult : SupervisorEffect κ → Option (Except SupervisorError (Option SessionExit))
  | recovered result => some result
  | _ => none

/-- What `finish_generation` returns, if it is not dropped. -/
def finishResult : SupervisorEffect κ → Option (Except SupervisorError (Option SessionExit))
  | finished result => some result
  | _ => none

end SupervisorEffect

namespace EndpointRound

variable {W : Type u} {κ : Type v}

/-- The beginning of an operation, before any effect. -/
def start (runtime : HsmsRuntime W κ) : EndpointRound W κ := ⟨runtime, []⟩

/-- Appends an effect. -/
def emit (r : EndpointRound W κ) (effect : EndpointEffect κ) : EndpointRound W κ :=
  { r with effects := r.effects ++ [effect] }

/-- A mutation of the runtime without an effect. -/
def update (r : EndpointRound W κ) (f : HsmsRuntime W κ → HsmsRuntime W κ) : EndpointRound W κ :=
  { r with runtime := f r.runtime }

/-- `LifecycleCommand::complete`: the result goes to whoever has submitted the command. -/
def complete (r : EndpointRound W κ) (command : LifecycleCommand κ) (result : LifecycleResult) :
    EndpointRound W κ :=
  r.emit (.completed command result)

/-- Publishes a diagnostic event. -/
def diagnose (r : EndpointRound W κ) (event : DiagnosticEvent) : EndpointRound W κ :=
  (r.update fun runtime =>
    { runtime with diagnostics := runtime.diagnostics.publish event }).emit (.diagnostic event)

/-- `record_exit`: the exit will be part of the next published state. -/
def recordExit (r : EndpointRound W κ) (exit : SessionExit) : EndpointRound W κ :=
  r.update fun runtime =>
    { runtime with lastExit := some ⟨exit.generation, exit.reason.public_, exit.cleanup = .clean⟩ }

/-- Releases what the outbox holds. -/
def settle (r : EndpointRound W κ) : EndpointRound W κ :=
  { runtime := { r.runtime with completions := [] }
    effects := r.effects ++ r.runtime.completions.map fun completion =>
      .completed completion.command completion.result }

/-- `publish_state`: publishes a state that differs from the last one, under the next number.
Without a number left the endpoint fails. -/
def publishState (r : EndpointRound W κ) : EndpointRound W κ × Flow :=
  let previous := r.runtime.state
  if r.runtime.observed previous.sequence = previous then (r, .goes)
  else
    match u64CheckedSucc previous.sequence with
    | none => (r, .fails .identifierExhausted)
    | some sequence =>
      let snapshot := r.runtime.observed sequence
      ((r.update fun runtime => { runtime with state := snapshot }).emit (.published snapshot),
        .goes)

variable [WriterIngress W]

/-- An operation of the supervisor; while it runs, the Driver fills the outbox and reports its
notices. -/
def supervise (r : EndpointRound W κ) (input : SupervisorInput W (LifecycleCommand κ)) :
    EndpointRound W κ :=
  let answer := r.runtime.supervisor.perform input
  let notices := answer.2.filterMap SupervisorEffect.notified
  { runtime :=
      { r.runtime with
        supervisor := answer.1
        completions := r.runtime.completions ++ answer.2.filterMap SupervisorEffect.outbox
        diagnostics := notices.foldl DiagnosticPublisher.publish r.runtime.diagnostics }
    effects := r.effects ++ answer.2.map .supervisor ++ notices.map .diagnostic }

/-! ## Publishing -/

/-- The first loop of `publish`, for at most so many turns, and whether it has failed. -/
def publishPrimaries : ℕ → EndpointRound W κ → EndpointRound W κ × Bool
  | 0, r => (r, false)
  | turns + 1, r =>
    let next := r.runtime.supervisor.current.bind fun current => current.driver.inbound.head?
    let r := r.supervise (.turn (.driver .takeInbound))
    match next with
    | none => (r, false)
    | some primary =>
      match r.runtime.delivery.primary .sixtyFour primary with
      | none => (r.emit (.primary primary false), true)
      | some delivery =>
        publishPrimaries turns ((r.update fun runtime => { runtime with delivery := delivery }).emit
          (.primary primary true))

/-- The second loop of `publish`. -/
def publishErrors : ℕ → EndpointRound W κ → EndpointRound W κ × Bool
  | 0, r => (r, false)
  | turns + 1, r =>
    let next := r.runtime.supervisor.current.bind fun current => current.driver.protocolErrors.head?
    let r := r.supervise (.turn (.driver .takeProtocolError))
    match next with
    | none => (r, false)
    | some error =>
      match r.runtime.delivery.error error with
      | none => (r.emit (.protocolError error false), true)
      | some delivery =>
        publishErrors turns ((r.update fun runtime => { runtime with delivery := delivery }).emit
          (.protocolError error true))

/-- The part of `publish` that hands over what the Driver has received. -/
def publishInbound (r : EndpointRound W κ) (now : MonoTime) : EndpointRound W κ :=
  match r.runtime.supervisor.current with
  | none => r
  | some current =>
    let primaries := r.publishPrimaries (current.driver.inbound.length + 1)
    let errors := primaries.1.publishErrors (current.driver.protocolErrors.length + 1)
    if primaries.2 || errors.2 then
      errors.1.supervise (.turn (.forceClose .applicationBackpressure now))
    else errors.1

/-- `publish`: hands over what has come in, publishes the state, and only then releases the
results that wait for it. -/
def publish (r : EndpointRound W κ) (now : MonoTime) : EndpointRound W κ × Flow :=
  match (r.publishInbound now).publishState with
  | (r, .goes) => (r.settle, .goes)
  | (r, flow) => (r, flow)

/-- The end of a lifecycle command: its result follows the state that it has led to. -/
def publishThenComplete (r : EndpointRound W κ) (command : LifecycleCommand κ)
    (result : LifecycleResult)
    (now : MonoTime) : EndpointRound W κ × Flow :=
  match r.publish now with
  | (r, .goes) => (r.complete command result, .goes)
  | (r, flow) => (r.emit (.abandoned command), flow)

/-! ## Commands -/

/-- Why a command for a generation cannot be handed to a Driver, if so. -/
def routeError (r : EndpointRound W κ) (generation : ConnectionGeneration) : Option EndpointError :=
  if r.runtime.supervisor.faulted then some .faulted
  else if r.runtime.occupant ≠ some generation then some .staleConnectionGeneration
  else none

/-- `receive` for `Start`: refused while a close is waited for; otherwise the supervisor decides. -/
def receiveStart (r : EndpointRound W κ) (command : LifecycleCommand κ) (reception : Reception) :
    EndpointRound W κ × Flow :=
  if !r.runtime.pending.isEmpty then
    r.publishThenComplete command (.error .draining) reception.published
  else
    let input := .start reception.validated reception.prepared reception.bound
    let result := (r.runtime.supervisor.perform input).2.findSome? SupervisorEffect.startResult
    let r := r.supervise input
    match result with
    | none => (r.emit (.abandoned command), .dropped)
    | some (.error error) =>
      r.publishThenComplete command (.error error.endpointError) reception.published
    | some (.ok ()) =>
      let address := r.runtime.supervisor.source.bind ConnectionSource.localAddress
      r.publishThenComplete command (.ok (.started ⟨address⟩)) reception.published

/-- `receive` for `Stop`: a faulted endpoint is recovered, and any other waits until nothing is
left of its generation. -/
def receiveStop (r : EndpointRound W κ) (command : LifecycleCommand κ) (reception : Reception) :
    EndpointRound W κ × Flow :=
  let recovering := r.runtime.supervisor.faulted
  let r := r.supervise (.beginStop reception.closing reception.logical)
  if recovering then
    let input := .recoverStopped reception.recovered reception.cleanup
    let result := (r.runtime.supervisor.perform input).2.findSome? SupervisorEffect.recoverResult
    let r := r.supervise input
    match result with
    | none => (r.emit (.abandoned command), .dropped)
    | some (.error error) =>
      r.publishThenComplete command (.error error.endpointError) reception.published
    | some (.ok none) => r.publishThenComplete command (.ok .closed) reception.published
    | some (.ok (some exit)) =>
      let result := if exit.cleanup = .clean then .ok .closed else .error .cleanupUnproven
      (r.recordExit exit).publishThenComplete command result reception.published
  else if r.runtime.supervisor.current.isNone then
    r.publishThenComplete command (.ok .closed) reception.published
  else
    (r.update fun runtime => { runtime with pending := runtime.pending ++ [command] }, .goes)

/-- `receive` for `Disconnect`: nothing to do, too late, or a close that the command waits for. -/
def receiveDisconnect (r : EndpointRound W κ) (command : LifecycleCommand κ)
    (generation : Option ConnectionGeneration) (reception : Reception) : EndpointRound W κ :=
  if generation.isNone then r.complete command (.ok .closed)
  else if generation ≠ r.runtime.occupant then r.complete command
    (.error .staleConnectionGeneration)
  else if r.runtime.supervisor.faulted then r.complete command (.error .faulted)
  else
    (r.supervise (.beginDisconnect reception.closing reception.logical)).update fun runtime =>
      { runtime with pending := runtime.pending ++ [command] }

/-- `receive` for a command, by its intent; the command goes on without it. -/
def dispatch (r : EndpointRound W κ) (command : LifecycleCommand κ) (reception : Reception) :
    EndpointRound W κ × Flow :=
  match command.intent with
  | .reply generation intent token body =>
    match r.routeError generation with
    | some error => (r.complete command.emptied (.ok (.rejectedReply intent token body error)),
        .goes)
    | none =>
      (r.supervise (.turn (.driver
        (.acceptReply intent token body (.application command.emptied)))), .goes)
  | .data generation message replyExpected =>
    match r.routeError generation with
    | some error => (r.complete command.emptied (.ok (.rejectedPrimary message error)), .goes)
    | none =>
      let input := if replyExpected then .acceptRequest message (.application command.emptied)
        else .acceptSend message (.application command.emptied)
      (r.supervise (.turn (.driver input)), .goes)
  | .control generation intent =>
    match r.routeError generation with
    | some error => (r.complete command.emptied (.error error), .goes)
    | none => (r.supervise (.turn (.driver (.acceptControl intent (.application command.emptied)))),
        .goes)
  | .start => r.receiveStart command.emptied reception
  | .stop => r.receiveStop command.emptied reception
  | .disconnect generation => (r.receiveDisconnect command.emptied generation reception, .goes)

/-- `receive`: ready priority work first, then the command.  Without a handle left the endpoint
quits. -/
def receive (r : EndpointRound W κ) (command : Option (LifecycleCommand κ))
    (reception : Reception) :
    EndpointRound W κ × Flow :=
  let r := (r.emit (.received command)).supervise
    (.turn (.processReadyPriority reception.terminal reception.first reception.second))
  match command with
  | some command => r.dispatch command reception
  | none =>
    ((r.update fun runtime => { runtime with quitting := true }).supervise
      (.beginStop reception.closing reception.logical), .goes)

end EndpointRound

/-! ## The loop -/

/-- Where the loop is: at the beginning of a turn, at its wait, or gone. -/
inductive LoopStage where
  | top
  | waiting
  | ended
  deriving DecidableEq

/-- The endpoint: its runtime and where the loop is.  This is the state of the machine. -/
structure EndpointLoop (W : Type u) (κ : Type v) where
  runtime : HsmsRuntime W κ
  stage : LoopStage

/-- The answers to the waits of one turn.  Which of them is read depends on the turn; one that is
missing is a wait that has not ended. -/
structure LoopAnswers (W : Type u) where
  -- `finish_generation`
  finished : MonoTime
  cleanup : Cleanup
  published : MonoTime
  -- `step_current`
  polls : Polls
  readings : Readings
  closing : MonoTime
  logical : MonoTime
  -- `connect`
  attempt : Attempt
  launched : Except ConfigError W
  tokenOwner : ℕ
  connected : MonoTime
  -- `receive`
  reception : Reception

/-- What happens to an endpoint: the runtime is polled or dropped, or the application uses one of
its channels. -/
inductive LoopInput (W : Type u) (κ : Type v) where
  | advance (now : MonoTime)
  | resume (answers : LoopAnswers W)
  | drop
  | submit (command : LifecycleCommand κ)
  | dropHandles
  | recvPrimary
  | recvProtocolError
  | recvDiagnostic
  | dropPrimaries
  | dropErrors
  | dropDiagnostics

namespace CommandChannel

variable {κ : Type v}

/-- `recv`, if it is ready: a command, or that no handle is left. -/
def recv (channel : CommandChannel κ) : Option (Option (LifecycleCommand κ)) :=
  match channel.queue with
  | command :: _ => some (some command)
  | [] => if channel.handles then none else some none

/-- The channel after `recv`, without the command that it has returned. -/
def pop (channel : CommandChannel κ) :
    CommandChannel κ := { channel with queue := channel.queue.tail }

/-- `try_send` finds a place: the channel is open at both ends and not full. -/
def hasRoom (channel : CommandChannel κ) : Bool :=
  channel.handles && !channel.closed && channel.queue.length < channel.capacity

end CommandChannel

/-- What a command gets that is still in the channel when the runtime is dropped. -/
def LifecycleCommand.stoppedResult {κ : Type v} (command : LifecycleCommand κ) : LifecycleResult :=
  match command.intent with
  | .reply _ intent token body => .ok (.rejectedReply intent token body .runtimeStopped)
  | .data _ message _ => .ok (.rejectedPrimary message .runtimeStopped)
  | .control .. | .start | .stop | .disconnect _ => .error .runtimeStopped

namespace EndpointLoop

variable {W : Type u} {κ : Type v}

/-- The runtime of a new endpoint, before it is run. -/
def new (config : EndpointConfig) : EndpointLoop W κ := ⟨.new config, .top⟩

/-- `HsmsRuntime::drop`, and what goes with it. -/
def dropped (r : EndpointRound W κ) : EndpointLoop W κ × List (EndpointEffect κ) :=
  let previous := r.runtime.state
  let snapshot : EndpointStateSnapshot :=
    { desired := .stopped
      phase := .faulted
      generation := previous.generation
      sequence := u64SaturatingSucc previous.sequence
      session := some .closed
      lastExit := r.runtime.lastExit }
  let r := if r.runtime.supervisor.current.isSome then
      (r.update fun runtime => { runtime with state := snapshot }).emit (.published snapshot)
    else r
  let queued := r.runtime.commands.queue.flatMap fun command =>
    [.received (some command), .completed command.emptied command.stoppedResult]
  let settled := r.runtime.completions.map fun completion =>
    .completed completion.command completion.result
  let lost := r.runtime.pending.map .abandoned
  (⟨{ r.runtime with
      commands := { r.runtime.commands with queue := [], closed := true }
      completions := []
      pending := [] }, .ended⟩,
    r.effects ++ queued ++ settled ++ lost)

/-- `run` returns, and the runtime is dropped with it. -/
def exit (r : EndpointRound W κ) (result : Except EndpointError Unit) :
    EndpointLoop W κ × List (EndpointEffect κ) :=
  dropped (r.emit (.returned result))

/-- The rest of a turn, according to how its operation has gone. -/
def goOn : EndpointRound W κ × Flow → EndpointLoop W κ × List (EndpointEffect κ)
  | (r, .goes) => (⟨r.runtime, .top⟩, r.effects)
  | (r, .fails error) => exit r (.error error)
  | (r, .dropped) => dropped r

variable [WriterIngress W]

/-- The beginning of a turn, up to its wait. -/
def advance (runtime : HsmsRuntime W κ) (now : MonoTime) :
    EndpointLoop W κ × List (EndpointEffect κ) :=
  match (EndpointRound.start runtime).publish now with
  | (r, .goes) =>
    if !r.runtime.supervisor.faulted && r.runtime.slotClosed then (⟨r.runtime, .waiting⟩, r.effects)
    else if r.runtime.quitting && r.runtime.supervisor.faulted then exit r (.error .cleanupUnproven)
    else if r.runtime.quitting && r.runtime.supervisor.current.isNone then exit r (.ok ())
    else (⟨r.runtime, .waiting⟩, r.effects)
  | other => goOn other

/-- The end of a generation whose transport is closed. -/
def finish (r : EndpointRound W κ) (answers : LoopAnswers W) :
    EndpointLoop W κ × List (EndpointEffect κ) :=
  let input := .finishGeneration answers.finished answers.cleanup
  let result := (r.runtime.supervisor.perform input).2.findSome? SupervisorEffect.finishResult
  let r := r.supervise input
  match result with
  -- `finish_generation` has a generation to finish
  | none | some (.ok none) => dropped r
  | some (.error error) => exit r (.error error.endpointError)
  | some (.ok (some closed)) =>
    match (r.recordExit closed).publish answers.published with
    | (r, .goes) =>
      let clean : Bool := closed.cleanup = .clean
      let r := r.diagnose (.connectionClosed closed.generation closed.reason.public_ clean)
      let result : LifecycleResult := if clean then .ok .closed else .error .cleanupUnproven
      (⟨{ r.runtime with pending := [] }, .top⟩, r.effects ++ r.runtime.pending.map
        (.completed · result))
    | other => goOn other

/-- A turn that takes what comes out of the channel. -/
def take (r : EndpointRound W κ) (command : Option (LifecycleCommand κ)) (answers : LoopAnswers W) :
    EndpointLoop W κ × List (EndpointEffect κ) :=
  goOn ((r.update fun runtime => { runtime with commands := runtime.commands.pop }).receive command
    answers.reception)

/-- A turn without a generation to serve and without a connection to make. -/
def idle (r : EndpointRound W κ) (answers : LoopAnswers W) :
    EndpointLoop W κ × List (EndpointEffect κ) :=
  match r.runtime.commands.recv with
  | none => (⟨r.runtime, .waiting⟩, r.effects)
  | some command => take r command answers

/-- What comes out of the channel as long as the runtime does not quit. -/
def command (r : EndpointRound W κ) : Option (Option (LifecycleCommand κ)) :=
  if r.runtime.quitting then none else r.runtime.commands.recv

/-- The selection of a turn, and the preference that it leaves. -/
def prefer (r : EndpointRound W κ) (preference : Bool) : EndpointRound W κ :=
  r.update fun runtime => { runtime with preferCommands := preference }

/-- A turn with a generation to serve. -/
def serve (r : EndpointRound W κ) (answers : LoopAnswers W) :
    EndpointLoop W κ × List (EndpointEffect κ) :=
  let input := .stepCurrent answers.polls
      (some r.runtime.delivery.capacity) answers.readings answers.closing
    answers.logical
  let result := (r.runtime.supervisor.perform input).2.findSome? SupervisorEffect.stepResult
  match alternate r.runtime.preferCommands (command r).isSome result.isSome, command r, result with
  | (some .left, preference), some command, _ => take (prefer r preference) command answers
  | (some .right, preference), _, some result =>
    let r := (prefer r preference).supervise input
    let r := match result with
      | .ok () => r
      | .error error => r.diagnose (.connectionAttemptFailed error.text)
    (⟨r.runtime, .top⟩, r.effects)
  | _, _, _ => (⟨r.runtime, .waiting⟩, r.effects)

/-- The end of `connect` in a turn. -/
def connected (r : EndpointRound W κ) (result : Except SupervisorError Bool) : EndpointRound W κ :=
  match result with
  | .ok _ => r
  | .error error =>
    let r := r.diagnose (.connectionAttemptFailed error.display)
    match error, r.runtime.active with
    | .attempt (.transport _), true | .attempt .timeout, true => r
    | _, _ => r.supervise .faultSource

/-- A turn with a connection to make.  An attempt that still waits has moved its source all the
same, if it has been polled. -/
def seek (r : EndpointRound W κ) (answers : LoopAnswers W) :
    EndpointLoop W κ × List (EndpointEffect κ) :=
  let input := .connect answers.attempt answers.launched answers.tokenOwner answers.connected
  let result := (r.runtime.supervisor.perform input).2.findSome? SupervisorEffect.connectResult
  let command := r.runtime.commands.recv
  match alternate r.runtime.preferCommands command.isSome result.isSome, command, result with
  | (some .left, preference), some command, _ =>
    let polled := if r.runtime.preferCommands then r else r.supervise input
    take (prefer polled preference) command answers
  | (some .right, preference), _, some result =>
    let r := connected ((prefer r preference).supervise input) result
    (⟨r.runtime, .top⟩, r.effects)
  | _, _, _ =>
    let r := r.supervise input
    (⟨r.runtime, .waiting⟩, r.effects)

/-- The rest of a turn, from its wait on. -/
def resume (runtime : HsmsRuntime W κ) (answers : LoopAnswers W) :
    EndpointLoop W κ × List (EndpointEffect κ) :=
  let r := EndpointRound.start runtime
  if !runtime.supervisor.faulted && runtime.slotClosed then finish r answers
  else if runtime.supervisor.faulted ||
      (!runtime.supervisor.running && runtime.supervisor.current.isNone) then
    idle r answers
  else if runtime.supervisor.current.isSome then serve r answers
  else seek r answers

/-- What the application does to its channels. -/
def apply (runtime : HsmsRuntime W κ) : LoopInput W κ → HsmsRuntime W κ × List (EndpointEffect κ)
  | .submit command =>
    if runtime.commands.hasRoom then
      ({ runtime with commands :=
        { runtime.commands with queue := runtime.commands.queue ++ [command] } }, [])
    else (runtime, [.refused command])
  | .dropHandles => ({ runtime with commands := { runtime.commands with handles := false } }, [])
  | .recvPrimary =>
    let answer := runtime.delivery.recvPrimary
    ({ runtime with delivery := answer.2 }, (answer.1.map .receivedPrimary).toList)
  | .recvProtocolError =>
    let answer := runtime.delivery.recvProtocolError
    ({ runtime with delivery := answer.2 }, (answer.1.map .receivedError).toList)
  | .recvDiagnostic => ({ runtime with diagnostics := runtime.diagnostics.recv.1 }, [])
  | .dropPrimaries => ({ runtime with delivery := runtime.delivery.dropPrimaries }, [])
  | .dropErrors => ({ runtime with delivery := runtime.delivery.dropErrors }, [])
  | .dropDiagnostics => ({ runtime with diagnostics := runtime.diagnostics.dropReceiver }, [])
  | .advance _ | .resume _ | .drop => (runtime, [])

/-- What an input does, if it can happen at this stage.  The application may use its channels at
any time. -/
def perform (self : EndpointLoop W κ) (input : LoopInput W κ) :
    EndpointLoop W κ × List (EndpointEffect κ) :=
  match input, self.stage with
  | .advance now, .top => advance self.runtime now
  | .resume answers, .waiting => resume self.runtime answers
  | .drop, .top | .drop, .waiting => dropped (.start self.runtime)
  | input, stage =>
    let answer := apply self.runtime input
    (⟨answer.1, stage⟩, answer.2)

/-- The endpoint as a machine. -/
def machine : Machine (EndpointLoop W κ) (LoopInput W κ) (EndpointEffect κ) where
  step := perform

end EndpointLoop

end Hsms
end SecsRust
