import SecsRust.Hsms.Generation.Runtime
import SecsRust.Hsms.Supervisor.Connection

/-!
# The connection supervisor

`ConnectionSupervisor` of `hsms/supervisor/runtime.rs`: it owns the one connection slot of
an endpoint, the source of its candidates, the running intent and the fault latch.  It
starts and stops, connects, steps the current generation, and ends it.

The supervisor is a machine over its operations.  What the network, the transport tasks and
the clock answer comes with each operation, so a run is a list of operations with arbitrary
answers.  An operation that is dropped while it waits shows as an answer that is missing,
and the supervisor then is what the dropped future leaves.  What the endpoint does to the
current generation through `current_mut` is an operation too (`SupervisorInput.turn`), since
the slot does not notice it.

The effects are what an operation does that others can see: the effects of the Driver of the
generation, the events of the slot, and what the operation returns.  The returned values are
effects because the endpoint loop, which calls these operations, is modelled over this
machine and reads them there.

A generation is created only into a free slot that is fit for it, and after anything that
casts doubt on this a new one has to wait for a start with a fresh source.  How the
operations keep to that is the subject of `Supervisor.Replacement`; what a turn of the
supervisor does to the Driver of its generation is the subject of `Supervisor.Turns`.
-/

namespace SecsRust
namespace Hsms

universe u v

/-- `SupervisorError`: why the supervisor does not do what it was asked for. -/
inductive SupervisorError where
  | start (error : SourceError)
  | attempt (error : AttemptError)
  | config (error : ConfigError)
  | occupied
  | stopped
  | faulted
  | generationExhausted
  | recoveryRequiresStop
  deriving DecidableEq

/-- `recoverable`: after such an end the endpoint may connect again without being started again. -/
def recoverable : GenerationCloseReason → Bool
  | .localDisconnect | .localSeparate | .separateReceived | .transportLost | .systemBytesExhausted
  | .communicationsTimeout _ => true
  | .localStop | .protocolViolation | .controlBackpressure | .applicationBackpressure
  | .runtimeInvariant => false

/-! ## Scheduling -/

/-- `Selected` of `hsms/scheduling.rs`: which of two sources is served. -/
inductive Selected where
  | left
  | right
  deriving DecidableEq

/-- `alternate` of `hsms/scheduling.rs`: the source that is served, if any is ready, and the
preference that is left. -/
def alternate (preferLeft leftReady rightReady : Bool) : Option Selected × Bool :=
  if preferLeft && leftReady then (some .left, false)
  else if rightReady then (some .right, true)
  else if !preferLeft && leftReady then (some .left, false)
  else (none, preferLeft)

/-! ## The supervisor -/

/-- `ConnectionSupervisor`: the slot with its generation, the source of candidates, and what is
known of their fitness. -/
structure ConnectionSupervisor (W : Type u) (κ : Type v) where
  config : EndpointConfig
  source : Option ConnectionSource
  current : Option (GenerationRuntime W κ)
  nextGeneration : Option UInt64
  running : Bool
  faulted : Bool
  preferGeneration : Bool

/-- What the endpoint does to the current generation between the supervisor's own operations. -/
inductive GenerationTurn (κ : Type v) where
  | driver (input : DriverInput (RuntimeCompletion κ))
  | forceClose (reason : GenerationCloseReason) (now : MonoTime)
  | processReadyPriority (terminal : Option IoEvent) (first second : Readings)

/-- An operation of the supervisor, with the answers of its surroundings. -/
inductive SupervisorInput (W : Type u) (κ : Type v) where
  | start (validated now : MonoTime) (bound : Option (Except IoError SocketAddr))
  | connect (attempt : Attempt) (launched : Except ConfigError W) (tokenOwner : ℕ) (now : MonoTime)
  | stepCurrent (polls : Polls) (capacity : Option (ℕ × ℕ)) (readings : Readings)
      (closing logical : MonoTime)
  | beginStop (now logical : MonoTime)
  | beginDisconnect (now logical : MonoTime)
  | finishGeneration (now : MonoTime) (cleanup : Cleanup)
  | recoverStopped (now : MonoTime) (cleanup : Cleanup)
  | faultSource
  | turn (turn : GenerationTurn κ)

/-- What an operation does, and what it returns. -/
inductive SupervisorEffect (κ : Type v) where
  | driver (generation : ConnectionGeneration) (effect : DriverEffect (RuntimeCompletion κ))
  -- `start` has prepared a source
  | prepared
  -- `connect` finds no identity left
  | exhausted
  -- `GenerationRuntime::from_stream` has been called, and whether it has made a generation
  | launched (generation : ConnectionGeneration) (created : Bool)
  | exited (exit : SessionExit)
  -- what the operations return
  | started (result : Except SupervisorError Unit)
  | connected (result : Except SupervisorError Bool)
  | stepped (result : Except IoError Unit)
  | recovered (result : Except SupervisorError (Option SessionExit))
  | finished (result : Except SupervisorError (Option SessionExit))

namespace ConnectionSupervisor

variable {W : Type u} {κ : Type v}

/-- A supervisor without a source, a generation or a task. -/
def stopped (config : EndpointConfig) : ConnectionSupervisor W κ where
  config := config
  source := none
  current := none
  nextGeneration := some 1
  running := false
  faulted := false
  preferGeneration := true

/-- `new`, at the instant `now`. -/
def new (config : EndpointConfig) (now : MonoTime) :
    Except ConfigError (ConnectionSupervisor W κ) :=
  match config.validate now with
  | .error error => .error error
  | .ok () => .ok (stopped config)

/-- The listener's answer, for an active configuration that does not ask for one. -/
def prepareSource (config : EndpointConfig) (validated now : MonoTime)
    (bound : Option (Except IoError SocketAddr)) : Option (Except SourceError ConnectionSource) :=
  match config.mode, bound with
  | .passive, none => none
  | _, bound =>
    some (ConnectionSource.prepare config validated now (bound.getD (.error ⟨"not bound"⟩)))

/-- `start`; without an answer it is dropped while the listener is bound. -/
def start (self : ConnectionSupervisor W κ) (validated now : MonoTime)
    (bound : Option (Except IoError SocketAddr)) :
    ConnectionSupervisor W κ × List (SupervisorEffect κ) :=
  if self.faulted then (self, [.started (.error .faulted)])
  else if self.running then (self, [.started (.ok ())])
  else if self.current.isSome then (self, [.started (.error .occupied)])
  else
    match prepareSource self.config validated now bound with
    | none => (self, [])
    | some (.error error) => (self, [.started (.error (.start error))])
    | some (.ok source) =>
      ({ self with source := some source, running := true }, [.prepared, .started (.ok ())])

/-- The effects of a generation's round. -/
def driverEffects (r : GenerationRound W κ) : List (SupervisorEffect κ) :=
  r.effects.map (.driver r.runtime.generation)

variable [WriterIngress W]

/-- The end of `connect`, with a candidate: its identity is spent, whatever becomes of it. -/
def launch (self : ConnectionSupervisor W κ) (id : UInt64) (launched : Except ConfigError W)
    (tokenOwner : ℕ) (now : MonoTime) : ConnectionSupervisor W κ × List (SupervisorEffect κ) :=
  let self := { self with nextGeneration := u64CheckedSucc id }
  match GenerationRuntime.fromStream launched ⟨id⟩ tokenOwner self.config now with
  | .ok r =>
    ({ self with current := some r.runtime },
      .launched ⟨id⟩ true :: driverEffects r ++ [.connected (.ok true)])
  | .error error =>
    ({ self with faulted := true, source := none },
      [.launched ⟨id⟩ false, .connected (.error (.config error))])

/-- `connect`: a candidate for the free slot.  Its identity is spent when the candidate is there,
whether or not a generation comes of it. -/
def connect (self : ConnectionSupervisor W κ) (attempt : Attempt) (launched : Except ConfigError W)
    (tokenOwner : ℕ) (now : MonoTime) : ConnectionSupervisor W κ × List (SupervisorEffect κ) :=
  if self.faulted then (self, [.connected (.error .faulted)])
  else if !self.running then (self, [.connected (.error .stopped)])
  else if self.current.isSome then (self, [.connected (.error .occupied)])
  else
    match self.nextGeneration with
    | none =>
      ({ self with faulted := true, source := none },
        [.exhausted, .connected (.error .generationExhausted)])
    | some id =>
      match self.source with
      | none => (self, [.connected (.error .stopped)])
      | some source =>
        let self := { self with source := some (source.next attempt).2 }
        match (source.next attempt).1 with
        | none => (self, [])
        | some (.error error) => (self, [.connected (.error (.attempt error))])
        | some (.ok false) => (self, [.connected (.ok false)])
        | some (.ok true) => self.launch id launched tokenOwner now

/-- `step_current`.  It requires a generation. -/
def stepCurrent (self : ConnectionSupervisor W κ) (polls : Polls) (capacity : Option (ℕ × ℕ))
    (readings : Readings) (closing logical : MonoTime) :
    ConnectionSupervisor W κ × List (SupervisorEffect κ) :=
  match self.current with
  | none => (self, [])
  | some runtime =>
    let ready := runtime.driver.transportClosed || (runtime.selectInput polls).isSome
    let rejected := self.source.bind ConnectionSource.rejectExtra
    match alternate self.preferGeneration ready rejected.isSome, rejected with
    | (some .left, preference), _ =>
      let r := (GenerationRound.start runtime).step polls capacity readings
      ({ self with current := some r.runtime, preferGeneration := preference },
        driverEffects r ++ [.stepped (.ok ())])
    | (some .right, preference), some error =>
      let r := (GenerationRound.start runtime).beginGracefulClose .runtimeInvariant closing logical
      ({ self with source := none, current := some r.runtime, preferGeneration := preference },
        driverEffects r ++ [.stepped (.error error)])
    | (_, preference), _ => ({ self with preferGeneration := preference }, [])

/-- `begin_stop`: the endpoint does not run any more.  A generation drains; without one a fault
is forgotten. -/
def beginStop (self : ConnectionSupervisor W κ) (now logical : MonoTime) :
    ConnectionSupervisor W κ × List (SupervisorEffect κ) :=
  let self := { self with running := false, source := none }
  match self.current with
  | some runtime =>
    let r := (GenerationRound.start runtime).beginGracefulClose .localStop now logical
    ({ self with current := some r.runtime }, driverEffects r)
  | none => ({ self with faulted := false }, [])

/-- `begin_disconnect`: the generation drains, and the endpoint goes on. -/
def beginDisconnect (self : ConnectionSupervisor W κ) (now logical : MonoTime) :
    ConnectionSupervisor W κ × List (SupervisorEffect κ) :=
  match self.current with
  | some runtime =>
    let r := (GenerationRound.start runtime).beginGracefulClose .localDisconnect now logical
    ({ self with current := some r.runtime }, driverEffects r)
  | none => (self, [])

/-- `recover_stopped`: cleans up once more, if the endpoint is stopped and the transport closed. -/
def recoverStopped (self : ConnectionSupervisor W κ) (now : MonoTime) (cleanup : Cleanup) :
    ConnectionSupervisor W κ × List (SupervisorEffect κ) :=
  if self.running then (self, [.recovered (.error .recoveryRequiresStop)])
  else
    match self.current with
    | none => ({ self with faulted := false }, [.recovered (.ok none)])
    | some runtime =>
      if !runtime.driver.transportClosed then (self, [.recovered (.error .occupied)])
      else
        let (r, exit) := (GenerationRound.start runtime).recoverCleanup now cleanup
        let self := { self with current := some r.runtime }
        match exit with
        | none => (self, driverEffects r)
        | some exit =>
          let effects := driverEffects r ++ [.exited exit, .recovered (.ok (some exit))]
          if exit.cleanup = .clean then ({ self with current := none, faulted := false }, effects)
          else ({ self with faulted := true }, effects)

/-- `finish_generation`: cleans up and reports.  The slot is freed only by a clean exit, and a
reason that is not recoverable latches the fault. -/
def finishGeneration (self : ConnectionSupervisor W κ) (now : MonoTime) (cleanup : Cleanup) :
    ConnectionSupervisor W κ × List (SupervisorEffect κ) :=
  match self.current with
  | none => (self, [.finished (.ok none)])
  | some runtime =>
    if !runtime.driver.transportClosed then (self, [.finished (.error .occupied)])
    else
      let (r, exit) := (GenerationRound.start runtime).finish now cleanup
      let self := { self with current := some r.runtime }
      match exit with
      | none => (self, driverEffects r)
      | some exit =>
        let effects := driverEffects r ++ [.exited exit, .finished (.ok (some exit))]
        if exit.cleanup ≠ .clean then ({ self with faulted := true, source := none }, effects)
        else
          let self := { self with current := none }
          if !self.running then ({ self with faulted := false }, effects)
          else if !recoverable exit.reason then ({ self with faulted := true, source := none },
            effects)
          else (self, effects)

/-- `fault_source`: latches the fault and drops the source. -/
def faultSource (self : ConnectionSupervisor W κ) : ConnectionSupervisor W κ :=
  { self with faulted := true, source := none }

/-- What the endpoint does through `current_mut`. -/
def turnCurrent (self : ConnectionSupervisor W κ) (turn : GenerationTurn κ) :
    ConnectionSupervisor W κ × List (SupervisorEffect κ) :=
  match self.current with
  | none => (self, [])
  | some runtime =>
    let r := GenerationRound.start runtime
    let r := match turn with
      | .driver input => r.call input
      | .forceClose reason now => r.forceClose reason now
      | .processReadyPriority terminal first second => r.processReadyPriority terminal first second
    ({ self with current := some r.runtime }, driverEffects r)

/-- What an input does. -/
def perform (self : ConnectionSupervisor W κ) :
    SupervisorInput W κ → ConnectionSupervisor W κ × List (SupervisorEffect κ)
  | .start validated now bound => self.start validated now bound
  | .connect attempt launched tokenOwner now => self.connect attempt launched tokenOwner now
  | .stepCurrent polls capacity readings closing logical =>
    self.stepCurrent polls capacity readings closing logical
  | .beginStop now logical => self.beginStop now logical
  | .beginDisconnect now logical => self.beginDisconnect now logical
  | .finishGeneration now cleanup => self.finishGeneration now cleanup
  | .recoverStopped now cleanup => self.recoverStopped now cleanup
  | .faultSource => (self.faultSource, [])
  | .turn turn => self.turnCurrent turn

/-- The supervisor as a machine. -/
def machine : Machine (ConnectionSupervisor W κ) (SupervisorInput W κ) (SupervisorEffect κ) where
  step := perform

end ConnectionSupervisor

end Hsms
end SecsRust
