import SecsRust.Hsms.Supervisor.Runtime

/-!
# Diagnostics

`hsms/endpoint/diagnostics.rs`: a bounded channel of observations that never holds up the
protocol.  What finds no place is left out and counted, and what is received carries the
number of its publication, so that a consumer sees where something is missing.

`observations_accounted` says how much a consumer can conclude.  The record of an event
carries the number of its publication, records keep the order of their events, they are
received in that order, and never more of them wait than the channel holds.  The counter of
what was left out is exact, up to the largest value that it can have.  The publisher's own
number is a `u64` as well; after the last one no further record is made, and everything is
counted as left out.

The invariant (`Observations`) is about three lists read off the history, the events
published, the records made and the records received, and about the state of the channel.
There is one lemma for each thing that can happen to it: an event is recorded, or left out,
or a record is received, or the receiver ends.

The publisher is one record here although the source clones it: its clones share all three
of its fields. The texts of the errors that become part of an event are the first section.
-/

namespace SecsRust
namespace Hsms

universe u v

/-! ## Texts -/

/-- What a `ConfigError` displays. -/
def ConfigError.display : ConfigError → String
  | messageLengthTooSmall value =>
    "maximum HSMS message length " ++ toString value ++ " is smaller than the 10-byte header"
  | messageLengthTooLarge value =>
    "maximum HSMS message length " ++ toString value ++ " exceeds the four-byte length field"
  | zeroCapacity field => "capacity `" ++ field ++ "` must be greater than zero"
  | runtimePolicy description => "invalid runtime policy: " ++ description

/-- What a `SourceError` displays. -/
def SourceError.display : SourceError → String
  | config error => error.display
  | bind error => "cannot bind HSMS listener: " ++ error.text

/-- What an `AttemptError` displays. -/
def AttemptError.display : AttemptError → String
  | transport error => "HSMS connection attempt failed: " ++ error.text
  | timeout => "HSMS connection attempt timed out"
  | deadlineOverflow => "HSMS connection deadline overflow"

/-- What a `SupervisorError` displays. -/
def SupervisorError.display : SupervisorError → String
  | start error => error.display
  | attempt error => error.display
  | config error => error.display
  | occupied => "HSMS generation still owns the endpoint slot"
  | stopped => "HSMS endpoint is stopped"
  | faulted => "HSMS endpoint requires fault recovery"
  | generationExhausted => "HSMS generation identities exhausted"
  | recoveryRequiresStop => "stop the HSMS endpoint before retrying cleanup"

/-! ## Events -/

/-- `ConnectionCloseReason`: why a connection was closed, as an application sees it. -/
inductive ConnectionCloseReason where
  | communicationsTimeout (kind : TimeoutKind)
  | controlBackpressure
  | systemBytesExhausted
  | runtimeInvariant
  | localStop
  | localDisconnect
  | localSeparate
  | separateReceived
  | transportLost
  | protocolViolation
  | applicationBackpressure
  deriving DecidableEq

/-- `close_reason`: the public form of the reason of a generation. -/
def GenerationCloseReason.public_ : GenerationCloseReason → ConnectionCloseReason
  | localStop => .localStop
  | localDisconnect => .localDisconnect
  | localSeparate => .localSeparate
  | separateReceived => .separateReceived
  | transportLost => .transportLost
  | protocolViolation => .protocolViolation
  | controlBackpressure => .controlBackpressure
  | applicationBackpressure => .applicationBackpressure
  | systemBytesExhausted => .systemBytesExhausted
  | runtimeInvariant => .runtimeInvariant
  | communicationsTimeout .t6 => .communicationsTimeout .t6
  | communicationsTimeout .t7 => .communicationsTimeout .t7
  | communicationsTimeout .t8 => .communicationsTimeout .t8

/-- **No cause of a close is hidden** in its public form.  Two generations that closed for
different reasons are told apart by their reports. -/
theorem GenerationCloseReason.public_injective :
    Function.Injective GenerationCloseReason.public_ := by
  intro reason reason' h
  rcases reason with _ | _ | _ | _ | _ | _ | _ | _ | _ | _ | (_ | _ | _) <;>
    rcases reason' with _ | _ | _ | _ | _ | _ | _ | _ | _ | _ | (_ | _ | _) <;>
    first | rfl | cases h

/-- `DiagnosticEvent`: what is observed, the end of a connection, a failed attempt, or a notice
of the protocol. -/
inductive DiagnosticEvent where
  | connectionClosed (generation : ConnectionGeneration) (reason : ConnectionCloseReason)
      (clean : Bool)
  | connectionAttemptFailed (message : String)
  | protocol (generation : ConnectionGeneration) (notice : ProtocolNotice)
  deriving DecidableEq

/-- `DiagnosticRecord`: an event with the number of its publication. -/
structure DiagnosticRecord where
  sequence : UInt64
  event : DiagnosticEvent
  deriving DecidableEq

/-! ## The channel -/

/-- `DiagnosticPublisher` with what its receiver has not taken yet.  The channel is a queue with
a bound; the number and the counter are those of the publisher. -/
structure DiagnosticPublisher where
  records : List DiagnosticRecord
  capacity : ℕ
  closed : Bool
  sequence : Option UInt64
  dropped : UInt64

/-- `u64::saturating_add(1)`: the counter stays at its largest value. -/
def u64SaturatingSucc (value : UInt64) : UInt64 := (u64CheckedSucc value).getD value

/-- What happens on the channel: an event is published, and recorded or left out; a record is
received. -/
inductive DiagnosticEffect where
  | published (event : DiagnosticEvent) (record : Option DiagnosticRecord)
  | received (record : DiagnosticRecord)

namespace DiagnosticPublisher

/-- `DiagnosticPublisher::new`: nothing has been published. -/
def new (capacity : ℕ) : DiagnosticPublisher where
  records := []
  capacity := capacity
  closed := false
  sequence := some 0
  dropped := 0

/-- The channel has a place for a record. -/
def hasRoom (publisher : DiagnosticPublisher) : Bool :=
  !publisher.closed && publisher.records.length < publisher.capacity

/-- The record of an event, if it finds a place. -/
def record (publisher : DiagnosticPublisher) (event : DiagnosticEvent) : Option DiagnosticRecord :=
  if publisher.hasRoom then publisher.sequence.map fun sequence => ⟨sequence, event⟩ else none

/-- `publish`: the number is spent whether or not the event finds a place.  It never waits. -/
def publish (publisher : DiagnosticPublisher) (event : DiagnosticEvent) : DiagnosticPublisher :=
  match publisher.sequence with
  | some sequence =>
    let publisher := { publisher with sequence := u64CheckedSucc sequence }
    if publisher.hasRoom then { publisher with records := publisher.records ++ [⟨sequence, event⟩] }
    else { publisher with dropped := u64SaturatingSucc publisher.dropped }
  | none => { publisher with dropped := u64SaturatingSucc publisher.dropped }

/-- `recv`, if there is something to receive. -/
def recv (publisher : DiagnosticPublisher) : DiagnosticPublisher × List DiagnosticEffect :=
  match publisher.records with
  | [] => (publisher, [])
  | record :: rest => ({ publisher with records := rest }, [.received record])

/-- The `DiagnosticReceiver` is dropped. -/
def dropReceiver (publisher : DiagnosticPublisher) : DiagnosticPublisher :=
  { publisher with records := [], closed := true }

end DiagnosticPublisher

/-- What is done to the channel. -/
inductive DiagnosticInput where
  | publish (event : DiagnosticEvent)
  | recv
  | dropReceiver

/-- The channel as a machine. -/
def DiagnosticPublisher.machine : Machine DiagnosticPublisher DiagnosticInput DiagnosticEffect where
  step publisher
    | .publish event => (publisher.publish event, [.published event (publisher.record event)])
    | .recv => publisher.recv
    | .dropReceiver => (publisher.dropReceiver, [])

/-! ## What a history holds -/

/-- The events published, in order. -/
def publishedIn (past : List DiagnosticEffect) : List DiagnosticEvent :=
  past.filterMap fun
    | .published event _ => some event
    | .received _ => none

/-- The records that found a place. -/
def recordedIn (past : List DiagnosticEffect) : List DiagnosticRecord :=
  past.filterMap fun
    | .published _ record => record
    | .received _ => none

/-- The records received, in order. -/
def receivedIn (past : List DiagnosticEffect) : List DiagnosticRecord :=
  past.filterMap fun
    | .published _ _ => none
    | .received record => some record

/-- **Every observation is accounted for**: a record carries the number of its publication, and
records keep their order; they are received in order, without a gap as long as the receiver is
there; and what is left out is counted, up to the bound of the counter. -/
structure Observations (past : List DiagnosticEffect) (publisher : DiagnosticPublisher) : Prop where
  numbered : ∀ record ∈ recordedIn past,
    (publishedIn past)[record.sequence.toNat]? = some record.event
  increasing : (recordedIn past).Pairwise fun record record' => record.sequence < record'.sequence
  counted : publisher.dropped.toNat =
    min ((publishedIn past).length - (recordedIn past).length) (2 ^ 64 - 1)
  received : ∃ lost, recordedIn past = receivedIn past ++ publisher.records ++ lost ∧
    (publisher.closed = false → lost = [])
  bounded : publisher.records.length ≤ publisher.capacity

/-- The number that is given next. -/
def DiagnosticPublisher.Counts (publisher : DiagnosticPublisher) (published : ℕ) : Prop :=
  match publisher.sequence with
  | some sequence => sequence.toNat = published
  | none => 2 ^ 64 ≤ published

theorem toNat_u64SaturatingSucc (value : UInt64) :
    (u64SaturatingSucc value).toNat = min (value.toNat + 1) (2 ^ 64 - 1) := by
  have hlt := value.toNat_lt
  unfold u64SaturatingSucc u64CheckedSucc
  split
  · next h =>
    subst h
    rfl
  · next h =>
    have hne : value.toNat ≠ 2 ^ 64 - 1 := fun heq => h (UInt64.toNat_inj.mp heq)
    rw [Option.getD_some, UInt64.toNat_add]
    simp only [UInt64.toNat_one]
    omega

theorem toNat_of_u64CheckedSucc {value next : UInt64} (h : u64CheckedSucc value = some next) :
    next.toNat = value.toNat + 1 := by
  have hlt := value.toNat_lt
  unfold u64CheckedSucc at h
  split at h
  · cases h
  · next hmax =>
    have hne : value.toNat ≠ 2 ^ 64 - 1 := fun heq => hmax (UInt64.toNat_inj.mp heq)
    rw [← Option.some.inj h, UInt64.toNat_add]
    simp only [UInt64.toNat_one]
    omega

theorem le_of_u64CheckedSucc {value : UInt64} (h : u64CheckedSucc value = none) :
    2 ^ 64 ≤ value.toNat + 1 := by
  unfold u64CheckedSucc at h
  split at h
  · next hmax =>
    subst hmax
    exact Nat.le_refl _
  · cases h

namespace Observations

variable {past : List DiagnosticEffect} {publisher : DiagnosticPublisher}

/-- A record is numbered below the events published so far. -/
theorem lt_length (h : Observations past publisher) {record : DiagnosticRecord}
    (hmem : record ∈ recordedIn past) : record.sequence.toNat < (publishedIn past).length :=
  (List.getElem?_eq_some_iff.mp (h.numbered record hmem)).1

/-- There are at most as many records as events. -/
theorem length_le (h : Observations past publisher) :
    (recordedIn past).length ≤ (publishedIn past).length := by
  have hnodup : ((recordedIn past).map fun record => record.sequence.toNat).Nodup := by
    refine List.Pairwise.map _ (fun record record' hlt heq => ?_) h.increasing
    exact Nat.ne_of_lt (UInt64.lt_iff_toNat_lt.mp hlt) heq
  have hsubset : ((recordedIn past).map fun record => record.sequence.toNat) ⊆
      List.range (publishedIn past).length := by
    intro n hn
    obtain ⟨record, hmem, rfl⟩ := List.mem_map.mp hn
    exact List.mem_range.mpr (h.lt_length hmem)
  have hle := (List.subperm_of_subset hnodup hsubset).length_le
  rwa [List.length_map, List.length_range] at hle

/-- An event that is recorded. -/
theorem record (h : Observations past publisher) {sequence : UInt64}
    (hsequence : publisher.sequence = some sequence)
    (hnext : publisher.Counts (publishedIn past).length)
    (hroom : publisher.hasRoom = true) (event : DiagnosticEvent) :
    Observations (past ++ [.published event (some ⟨sequence, event⟩)])
      { publisher with
        sequence := u64CheckedSucc sequence
        records := publisher.records ++ [⟨sequence, event⟩] } := by
  have hnumber : sequence.toNat = (publishedIn past).length := by
    unfold DiagnosticPublisher.Counts at hnext
    rw [hsequence] at hnext
    exact hnext
  have hpublished : publishedIn (past ++ [.published event (some ⟨sequence, event⟩)]) =
      publishedIn past ++ [event] := List.filterMap_append
  have hrecorded : recordedIn (past ++ [.published event (some ⟨sequence, event⟩)]) =
      recordedIn past ++ [⟨sequence, event⟩] := List.filterMap_append
  have hreceived : receivedIn
      (past ++ [.published event (some ⟨sequence, event⟩)]) = receivedIn past := by
    unfold receivedIn
    rw [List.filterMap_append]
    exact List.append_nil _
  obtain ⟨hopen, hfits⟩ := Bool.and_eq_true_iff.mp hroom
  have hopen : publisher.closed = false := by simpa using hopen
  refine ⟨?_, ?_, ?_, ?_, ?_⟩
  · rw [hpublished, hrecorded]
    intro record hmem
    rcases List.mem_append.mp hmem with hmem | hmem
    · rw [List.getElem?_append_left (h.lt_length hmem)]
      exact h.numbered record hmem
    · obtain rfl := List.mem_singleton.mp hmem
      rw [hnumber, List.getElem?_concat_length]
  · rw [hrecorded]
    refine List.pairwise_append.mpr ⟨h.increasing, List.pairwise_singleton _ _,
      fun record hmem new hnew => ?_⟩
    obtain rfl := List.mem_singleton.mp hnew
    have hlt := h.lt_length hmem
    rw [← hnumber] at hlt
    exact UInt64.lt_iff_toNat_lt.mpr hlt
  · rw [hpublished, hrecorded, List.length_append, List.length_append, List.length_singleton,
      List.length_singleton, Nat.add_sub_add_right]
    exact h.counted
  · obtain ⟨lost, hsplit, hlost⟩ := h.received
    obtain rfl := hlost hopen
    refine ⟨[], ?_, fun _ => rfl⟩
    rw [hrecorded, hreceived, hsplit]
    simp only [List.append_assoc, List.append_nil]
  · have hlt : publisher.records.length < publisher.capacity := by simpa using hfits
    dsimp only
    rw [List.length_append, List.length_singleton]
    omega

/-- An event that is left out. -/
theorem leaveOut (h : Observations past publisher) (sequence : Option UInt64)
    (event : DiagnosticEvent) :
    Observations (past ++ [.published event none])
      { publisher with sequence := sequence, dropped := u64SaturatingSucc publisher.dropped } := by
  have hpublished : publishedIn (past ++ [.published event none]) = publishedIn past ++ [event] :=
    List.filterMap_append
  have hrecorded : recordedIn (past ++ [.published event none]) = recordedIn past := by
    unfold recordedIn
    rw [List.filterMap_append]
    exact List.append_nil _
  have hreceived : receivedIn (past ++ [.published event none]) = receivedIn past := by
    unfold receivedIn
    rw [List.filterMap_append]
    exact List.append_nil _
  refine ⟨?_, ?_, ?_, ?_, h.bounded⟩
  · rw [hpublished, hrecorded]
    intro record hmem
    rw [List.getElem?_append_left (h.lt_length hmem)]
    exact h.numbered record hmem
  · rw [hrecorded]
    exact h.increasing
  · have hle := h.length_le
    rw [hpublished, hrecorded, List.length_append, List.length_singleton]
    dsimp only
    rw [toNat_u64SaturatingSucc, h.counted]
    omega
  · rw [hrecorded, hreceived]
    exact h.received

/-- A record that is received. -/
theorem receive (h : Observations past publisher) {record : DiagnosticRecord}
    {rest : List DiagnosticRecord} (hrecords : publisher.records = record :: rest) :
    Observations (past ++ [.received record]) { publisher with records := rest } := by
  have hpublished : publishedIn (past ++ [.received record]) = publishedIn past := by
    unfold publishedIn
    rw [List.filterMap_append]
    exact List.append_nil _
  have hrecorded : recordedIn (past ++ [.received record]) = recordedIn past := by
    unfold recordedIn
    rw [List.filterMap_append]
    exact List.append_nil _
  have hreceived : receivedIn (past ++ [.received record]) = receivedIn past ++ [record] :=
    List.filterMap_append
  refine ⟨by rw [hpublished, hrecorded]; exact h.numbered, by rw [hrecorded]; exact h.increasing,
    by rw [hpublished, hrecorded]; exact h.counted, ?_, ?_⟩
  · obtain ⟨lost, hsplit, hlost⟩ := h.received
    refine ⟨lost, ?_, hlost⟩
    rw [hrecorded, hreceived, hsplit, hrecords]
    simp only [List.append_assoc, List.cons_append, List.nil_append]
  · have hbounded := h.bounded
    rw [hrecords, List.length_cons] at hbounded
    exact (Nat.le_succ _).trans hbounded

/-- The receiver takes what is left with it. -/
theorem close (h : Observations past publisher) : Observations past publisher.dropReceiver := by
  refine ⟨h.numbered, h.increasing, h.counted, ?_, Nat.zero_le _⟩
  obtain ⟨lost, hsplit, -⟩ := h.received
  refine ⟨publisher.records ++ lost, ?_, fun hopen => ?_⟩
  · rw [hsplit]
    exact (List.append_assoc _ _ _).trans (congrArg (· ++ _) (List.append_nil _).symm)
  · cases hopen

end Observations

/-- **One thing done to the channel** keeps the account.  The channel has one place where it
counts and one where it hands out, and a lemma for each.  The number is given before the place is
looked for, so that a gap in the numbers is a loss. -/
theorem observations_step {past : List DiagnosticEffect} {publisher : DiagnosticPublisher}
    (h : Observations past publisher ∧ publisher.Counts (publishedIn past).length)
    (input : DiagnosticInput) :
    Observations (past ++ (DiagnosticPublisher.machine.step publisher input).2)
        (DiagnosticPublisher.machine.step publisher input).1 ∧
      (DiagnosticPublisher.machine.step publisher input).1.Counts
        (publishedIn (past ++ (DiagnosticPublisher.machine.step publisher input).2)).length := by
  obtain ⟨hobservations, hcounts⟩ := h
  cases input with
  | publish event =>
    have hlength (record : Option DiagnosticRecord) :
        (publishedIn (past ++ [.published event record])).length =
          (publishedIn past).length + 1 := by
      have happend : publishedIn
          (past ++ [.published event record]) = publishedIn past ++ [event] :=
        List.filterMap_append
      rw [happend, List.length_append, List.length_singleton]
    cases hsequence : publisher.sequence with
    | none =>
      have hpublish : publisher.publish event =
          { publisher with sequence := none, dropped := u64SaturatingSucc publisher.dropped } := by
        unfold DiagnosticPublisher.publish
        rw [hsequence]
      have hrecord : publisher.record event = none := by
        unfold DiagnosticPublisher.record
        rw [hsequence, Option.map_none]
        exact ite_self none
      have hcounts : 2 ^ 64 ≤ (publishedIn past).length := by
        unfold DiagnosticPublisher.Counts at hcounts
        rw [hsequence] at hcounts
        exact hcounts
      show Observations (past ++ [.published event (publisher.record event)])
          (publisher.publish event) ∧
        (publisher.publish event).Counts
        (publishedIn (past ++ [.published event (publisher.record event)])).length
      rw [hpublish, hrecord, hlength]
      exact ⟨hobservations.leaveOut none event, Nat.le_succ_of_le hcounts⟩
    | some sequence =>
      have hnumber : sequence.toNat = (publishedIn past).length := by
        unfold DiagnosticPublisher.Counts at hcounts
        rw [hsequence] at hcounts
        exact hcounts
      have hnext (other : DiagnosticPublisher) (hother : other.sequence = u64CheckedSucc sequence) :
          other.Counts ((publishedIn past).length + 1) := by
        unfold DiagnosticPublisher.Counts
        rw [hother, ← hnumber]
        cases hsucc : u64CheckedSucc sequence with
        | some next => exact toNat_of_u64CheckedSucc hsucc
        | none => exact le_of_u64CheckedSucc hsucc
      show Observations (past ++ [.published event (publisher.record event)])
          (publisher.publish event) ∧
        (publisher.publish event).Counts
        (publishedIn (past ++ [.published event (publisher.record event)])).length
      by_cases hroom : publisher.hasRoom = true
      · have hpublish : publisher.publish event =
            { publisher with
              sequence := u64CheckedSucc sequence
              records := publisher.records ++ [⟨sequence, event⟩] } := by
          unfold DiagnosticPublisher.publish
          rw [hsequence]
          exact if_pos hroom
        have hrecord : publisher.record event = some ⟨sequence, event⟩ := by
          unfold DiagnosticPublisher.record
          rw [if_pos hroom, hsequence, Option.map_some]
        rw [hpublish, hrecord, hlength]
        exact ⟨hobservations.record hsequence hcounts hroom event, hnext _ rfl⟩
      · have hpublish : publisher.publish event =
            { publisher with
              sequence := u64CheckedSucc sequence
              dropped := u64SaturatingSucc publisher.dropped } := by
          unfold DiagnosticPublisher.publish
          rw [hsequence]
          exact if_neg hroom
        have hrecord : publisher.record event = none := if_neg hroom
        rw [hpublish, hrecord, hlength]
        exact ⟨hobservations.leaveOut _ event, hnext _ rfl⟩
  | recv =>
    cases hrecords : publisher.records with
    | nil =>
      have hrecv : publisher.recv = (publisher, []) := by
        unfold DiagnosticPublisher.recv
        rw [hrecords]
      show Observations (past ++ publisher.recv.2) publisher.recv.1 ∧
        publisher.recv.1.Counts (publishedIn (past ++ publisher.recv.2)).length
      rw [hrecv, List.append_nil]
      exact ⟨hobservations, hcounts⟩
    | cons record rest =>
      have hrecv : publisher.recv = ({ publisher with records := rest }, [.received record]) := by
        unfold DiagnosticPublisher.recv
        rw [hrecords]
      have hpublished : publishedIn (past ++ [.received record]) = publishedIn past := by
        unfold publishedIn
        rw [List.filterMap_append]
        exact List.append_nil _
      show Observations (past ++ publisher.recv.2) publisher.recv.1 ∧
        publisher.recv.1.Counts (publishedIn (past ++ publisher.recv.2)).length
      rw [hrecv, hpublished]
      exact ⟨hobservations.receive hrecords, hcounts⟩
  | dropReceiver =>
    show Observations (past ++ []) publisher.dropReceiver ∧
      publisher.dropReceiver.Counts (publishedIn (past ++ [])).length
    rw [List.append_nil]
    exact ⟨hobservations.close, hcounts⟩

/-- **Diagnostics lose nothing silently**, however events, receptions and the end of the receiver
follow each other. -/
theorem observations_accounted (capacity : ℕ) (inputs : List DiagnosticInput) :
    Observations (DiagnosticPublisher.machine.history (.new capacity) inputs)
      (DiagnosticPublisher.machine.after (.new capacity) inputs) := by
  have hinitial : Observations [] (.new capacity) ∧
      (DiagnosticPublisher.new capacity).Counts (publishedIn []).length :=
    ⟨⟨fun record h => absurd h List.not_mem_nil, .nil, rfl, ⟨[], rfl, fun _ => rfl⟩, Nat.zero_le _⟩,
      rfl⟩
  exact (Machine.invariant_history
    (I := fun past publisher => Observations past publisher ∧ publisher.Counts
      (publishedIn past).length)
    (fun past publisher input h => observations_step h input) hinitial inputs).1

end Hsms
end SecsRust
