import SecsRust.Hsms.Config.Runtime

/-!
# Where connections come from

`ConnectionSource` of `hsms/supervisor/connection.rs`: where the candidates for a connection
of an endpoint come from.  A passive source listens only while it waits for a candidate: it
releases its listener before it hands one out, and binds the same address again when it is
next asked for one.  An active source spaces its attempts by T5, and the time of the next
attempt is committed when an attempt is over, however it ends.

The candidate itself is left out: it is handed on as it comes.  Times are counted from any
fixed origin. What the network and the clock answer is an argument (`Attempt`): whether the
call is cancelled, how the listener is bound again, what an accept or a connect comes to.
An answer that is missing is a wait that was dropped, and the source then is what the
dropped future leaves behind.

One fact about the source matters to the supervisor.  A source that has handed out a
candidate does not listen (`ConnectionSource.isListening_of_next`), so while a connection is
up no peer can be accepted beside it.
-/

namespace SecsRust
namespace Hsms

/-- `std::io::Error`, by the text that it displays. -/
structure IoError where
  text : String
  deriving DecidableEq

/-- `SocketAddr`: nothing looks inside of it. -/
inductive SocketAddr where
  | v4 (ip : BitVec 32) (port : UInt16)
  | v6 (ip : BitVec 128) (port : UInt16) (flowinfo scopeId : UInt32)
  deriving DecidableEq

/-- `SourceError`: why no source could be prepared. -/
inductive SourceError where
  | config (error : ConfigError)
  | bind (error : IoError)
  deriving DecidableEq

/-- `AttemptError`: why an attempt has not led to a candidate. -/
inductive AttemptError where
  | transport (error : IoError)
  | timeout
  | deadlineOverflow
  deriving DecidableEq

/-- `ConnectionSource`.  Of the listener only its presence matters. -/
inductive ConnectionSource where
  | active (t5 connect : Duration) (nextAttempt : Option MonoTime)
  | passive (listening : Bool) (address : SocketAddr)
  deriving DecidableEq

/-- How a wait for a candidate ends. -/
inductive AttemptOutcome where
  | cancelled
  | timedOut
  | failed (error : IoError)
  | connected

/-- What one call of `next` meets: whether it is cancelled from the start; how the suspended
listener is bound again; whether the retry time comes or the wait for it is cancelled; when the
attempt starts; how it ends, and when.  `none` stands for a wait at which the call is dropped. -/
structure Attempt where
  cancelled : Bool
  bound : Option (Except IoError Unit)
  retried : Option Bool
  started : MonoTime
  outcome : Option AttemptOutcome
  ended : MonoTime

namespace ConnectionSource

/-- `prepare`, at the two readings of its clock; `bound` is what binding the listener comes to. -/
def prepare (config : EndpointConfig) (validated now : MonoTime)
    (bound : Except IoError SocketAddr) :
    Except SourceError ConnectionSource :=
  match config.validate validated with
  | .error error => .error (.config error)
  | .ok () =>
    match config.mode with
    | .active => .ok (.active config.timeouts.t5 config.timeouts.connect (some now))
    | .passive =>
      match bound with
      | .error error => .error (.bind error)
      | .ok address => .ok (.passive true address)

/-- `local_address`: where a passive source listens, which is known once it was bound. -/
def localAddress : ConnectionSource → Option SocketAddr
  | passive _ address => some address
  | active .. => none

/-- `reject_extra`: `none` while it waits.  A listener beside a generation is an error and not a
queue. -/
def rejectExtra : ConnectionSource → Option IoError
  | passive true _ => some ⟨"Passive listener retained while generation is occupied"⟩
  | _ => none

/-- A source that is accepting connections. -/
def isListening : ConnectionSource → Bool
  | passive listening _ => listening
  | active .. => false

/-- `connect_attempt`; the deadline of the next one is committed however this one ends. -/
def connectAttempt (t5 connect : Duration) (attempt : Attempt) :
    Option (Except AttemptError Bool) × ConnectionSource :=
  let result := attempt.outcome.map fun
    | .cancelled => .ok false
    | .timedOut => .error .timeout
    | .failed error => .error (.transport error)
    | .connected => .ok true
  (result, .active t5 connect (attempt.ended.checkedAdd t5))

/-- The wait of a listening source. -/
def accept (address : SocketAddr) (attempt : Attempt) :
    Option (Except AttemptError Bool) × ConnectionSource :=
  match attempt.outcome with
  | some .cancelled => (some (.ok false), .passive true address)
  | some (.failed error) => (some (.error (.transport error)), .passive true address)
  | some .connected => (some (.ok true), .passive false address)
  -- an accept has no timeout
  | some .timedOut | none => (none, .passive true address)

/-- `next`: whether there is a candidate. -/
def next (self : ConnectionSource) (attempt : Attempt) :
    Option (Except AttemptError Bool) × ConnectionSource :=
  match self with
  | passive listening address =>
    if attempt.cancelled then (some (.ok false), self)
    else if listening then accept address attempt
    else
      match attempt.bound with
      | none => (none, self)
      | some (.error error) => (some (.error (.transport error)), self)
      | some (.ok ()) => accept address attempt
  | active t5 connect nextAttempt =>
    match nextAttempt with
    | none => (some (.error .deadlineOverflow), self)
    | some _ =>
      match attempt.retried with
      | none => (none, self)
      | some false => (some (.ok false), self)
      | some true =>
        match attempt.started.checkedAdd connect with
        | none => (some (.error .deadlineOverflow), self)
        | some _ => connectAttempt t5 connect attempt

/-- **A source that has handed out a candidate does not listen.** -/
theorem isListening_of_next {source after : ConnectionSource} {attempt : Attempt}
    (h : source.next attempt = (some (.ok true), after)) : after.isListening = false := by
  cases source with
  | passive listening address =>
    have haccept (h : accept address attempt = (some (.ok true), after)) :
        after.isListening = false := by
      unfold accept at h
      split at h
      · cases h
      · cases h
      · obtain ⟨-, rfl⟩ := Prod.mk.inj h
        rfl
      · cases h
      · cases h
    unfold next at h
    dsimp only at h
    split at h
    · cases h
    · split at h
      · exact haccept h
      · split at h
        · cases h
        · cases h
        · exact haccept h
  | active t5 connect nextAttempt =>
    unfold next at h
    dsimp only at h
    split at h
    · cases h
    · split at h
      · cases h
      · cases h
      · split at h
        · cases h
        · obtain ⟨-, rfl⟩ := Prod.mk.inj h
          rfl

end ConnectionSource

end Hsms
end SecsRust
