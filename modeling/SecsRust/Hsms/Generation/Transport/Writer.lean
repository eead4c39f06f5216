import SecsRust.Hsms.Codec
import SecsRust.Hsms.Config.Runtime

/-!
# The bounded writer

The ingress side of `hsms/generation/transport/bounded_writer.rs` with the vocabulary of its
`writer.rs`: one FIFO with two lanes of slots and a byte budget for Data.

A Data frame is written in two steps.  The reservation (`BoundedWriter.tryReserveMessage`)
measures the body and writes it behind a placeholder of fourteen bytes, before Core has
assigned a header; the admission (`BoundedWriter.admitReservedData`) stamps length prefix
and header over the placeholder.  A control frame is encoded and queued in one step
(`BoundedWriter.tryAdmit`).

Three things are shown of this path, and `encode_decode_inverse` puts them together with the
codec.

* What comes out is what the codec would have encoded at once: `admitReservedData_bytes` and
  `tryAdmit_bytes`.
* It does come out: a message that fits the Message Length is reserved wherever the writer
  has room (`tryReserveMessage_of_room`), and its permit is admitted as long as the FIFO is
  open and the clock can count a deadline (`admitReservedData_of_permit`,
  `tryAdmit_of_room`).
* Decoding it gives the message again, since the validator drops no bit of a header
  (`header_of_validate`).

The two lengths that have to agree are computed in different places.  The reservation
charges what the plan of the body says, and the admission checks the length of what has been
written; that a plan writes exactly its own length is a theorem about the encoder of bodies,
and it is used here on both sides.

The numbers of a reservation are `usize`s of a target; the admission and the codec are taken
on 64-bit targets.
-/

namespace SecsRust
namespace Hsms

open Secs2

/-- `OutboundFrame`: a message with the write that Core has given it. -/
structure OutboundFrame where
  writeId : WriteId
  message : ProtocolMessage

/-- `WriteAdmissionError`: why a control frame is not admitted. -/
inductive WriteAdmissionError where
  | full
  | closed
  | invariant
  deriving DecidableEq

/-- `DataPermitError`: the permit is not of this Writer. -/
inductive DataPermitError where
  | invariant
  deriving DecidableEq

/-- `ReservedDataAdmissionError`: why a permit is not admitted.  That there is no room is none of
the reasons. -/
inductive ReservedDataAdmissionError where
  | closed
  | invariant
  deriving DecidableEq

/-- `WriterPolicy`: the bytes of the Data lane, and how long a frame may wait and be written. -/
structure WriterPolicy where
  dataBytes : ℕ
  residence : Duration
  activeWrite : Duration

/-- The lane whose slot a frame holds. -/
inductive Lane where
  | control
  | data
  deriving DecidableEq

/-- `Charge`: one slot of a lane, and the bytes of a Data frame.  It goes with the frame until
its report is dropped. -/
structure Charge where
  slot : Lane
  bytes : Option ℕ
  deriving DecidableEq

/-- `QueuedFrame`: the bytes of a frame, complete, with the time until which they may wait. -/
structure QueuedFrame where
  writeId : WriteId
  bytes : List UInt8
  deadline : MonoTime
  charge : Charge

/-- The length of the placeholder: a prefix and a header. -/
def stampLength : ℕ := 14

/-- `PreparedData`: a placeholder with the encoded Message Text behind it.  It holds its place in
the FIFO, its slot and its bytes. -/
structure PreparedData where
  owner : ℕ
  bytes : List UInt8
  placeholder_le : stampLength ≤ bytes.length
  charge : Charge

/-- `BoundedWriter`: `owner` is its identity, `freeSlots` the room left in the FIFO.  The
counters are the permits that are left. -/
structure BoundedWriter where
  owner : ℕ
  closed : Bool
  freeSlots : ℕ
  queue : List QueuedFrame
  controlSlots : ℕ
  dataSlots : ℕ
  dataBytes : ℕ
  encoder : HsmsWireEncoder
  limits : EndpointLimits
  policy : WriterPolicy

/-- `OperationError::from` an encode error. -/
def encodeError : Secs2.EncodeError → OperationError
  | .itemBodyTooLarge formatCode bodyBytes => .encode (.itemBodyTooLarge formatCode bodyBytes)
  | .listTooLarge childCount => .encode (.listTooLarge childCount)
  | .arithmeticOverflow => .encode .arithmeticOverflow

/-- The Writer's part of a runtime policy. -/
def RuntimePolicy.writerPolicy (policy : RuntimePolicy) : WriterPolicy where
  dataBytes := policy.writeBytes
  residence := policy.residence
  activeWrite := policy.write

/-- The placeholder is at the front of what a plan has been written behind. -/
theorem placeholder_le_of_writeInto {plan : Secs2BodyPlan} {encoded : List UInt8}
    (h : plan.writeInto (List.replicate stampLength 0) = .ok encoded) :
    stampLength ≤ encoded.length := by
  rw [plan.writeInto_eq] at h
  rw [← Except.ok.inj h, List.length_append, List.length_replicate]
  exact Nat.le_add_right _ _

namespace BoundedWriter

/-- `BoundedWriter::new`.  The source asks of both durations that the clock can count them from the
epoch as well.  The epoch of the model is time zero, and every `Duration` can be counted from there,
so this part of the check cannot fail and is left out; in production `from_config` comes here only
after `validate` has added both durations to a later instant, on a clock whose range is narrower
than that of `Duration` on Linux. -/
def new (owner : ℕ) (limits : EndpointLimits) (policy : WriterPolicy)
    (target : Target := .sixtyFour) :
    Except String BoundedWriter :=
  match target.checkedAdd limits.dataLaneCapacity limits.criticalLaneCapacity with
  | none => .error "Writer capacity overflow"
  | some count =>
    if count > target.maxPermits ∨ policy.dataBytes < stampLength ∨
        policy.dataBytes > target.maxPermits then
      .error "Writer capacity is not representable"
    else if policy.residence.nanos = 0 ∨ policy.activeWrite.nanos = 0 then
      .error "Writer deadline is not representable"
    else
      .ok {
        owner := owner
        closed := false
        freeSlots := count
        queue := []
        controlSlots := limits.criticalLaneCapacity
        dataSlots := limits.dataLaneCapacity
        dataBytes := policy.dataBytes
        encoder := .new limits
        limits := limits
        policy := policy }

/-- `from_config`: the policy is validated once more, together with everything else. -/
def fromConfig (owner : ℕ) (config : EndpointConfig) (now : MonoTime)
    (target : Target := .sixtyFour) :
    Except ConfigError BoundedWriter :=
  match config.validate now target with
  | .error error => .error error
  | .ok () => (new owner config.limits config.runtime.writerPolicy target).mapError .runtimePolicy

/-- Drops a charge together with its room in the FIFO. -/
def release (self : BoundedWriter) (charge : Charge) : BoundedWriter :=
  { self with
    freeSlots := self.freeSlots + 1
    controlSlots := if charge.slot = .control then self.controlSlots + 1 else self.controlSlots
    dataSlots := if charge.slot = .data then self.dataSlots + 1 else self.dataSlots
    dataBytes := self.dataBytes + charge.bytes.getD 0 }

/-- `try_reserve_message`.  A failure drops every permit that was taken. -/
def tryReserveMessage (self : BoundedWriter) (body : Option SecsItem)
    (target : Target := .sixtyFour) : Except OperationError PreparedData × BoundedWriter :=
  if self.closed then (.error .connectionLost, self)
  else
    match prepareBody body with
    | .error source => (.error (encodeError source), self)
    | .ok plan =>
      match self.encoder.planData plan.encodedLength target with
      | .error _ =>
        (.error (.outboundFrameTooLarge plan.encodedLength self.limits.maxMessageLength), self)
      | .ok frame =>
        if frame.encodedLength > u32Max then (.error .backpressure, self)
        else if self.dataSlots = 0 then (.error .backpressure, self)
        else if self.dataBytes < frame.encodedLength then (.error .backpressure, self)
        else if self.freeSlots = 0 then (.error .backpressure, self)
        else
          match h : plan.writeInto (List.replicate stampLength 0) with
          | .error source => (.error (encodeError source), self)
          | .ok encoded =>
            (.ok {
              owner := self.owner
              bytes := encoded
              placeholder_le := placeholder_le_of_writeInto h
              charge := ⟨.data, some frame.encodedLength⟩ },
            { self with
              freeSlots := self.freeSlots - 1
              dataSlots := self.dataSlots - 1
              dataBytes := self.dataBytes - frame.encodedLength })

/-- `release_data`: a permit that is not used goes back with its place, its slot and its bytes. -/
def releaseData (self : BoundedWriter) (permit : PreparedData) :
    Except DataPermitError Unit × BoundedWriter :=
  if self.owner = permit.owner then (.ok (), self.release permit.charge)
  else (.error .invariant, self)

/-- `admit_reserved_data`.  Every failure drops the permit. -/
def admitReservedData (self : BoundedWriter) (permit : PreparedData) (frame : OutboundFrame)
    (now : MonoTime) : Except ReservedDataAdmissionError Unit × BoundedWriter :=
  if self.owner ≠ permit.owner then (.error .invariant, self)
  else if self.closed then (.error .closed, self.release permit.charge)
  else
    match frame.message with
    | .control _ => (.error .invariant, self.release permit.charge)
    | .data message =>
      match self.encoder.planData (permit.bytes.length - stampLength) with
      | .error _ => (.error .invariant, self.release permit.charge)
      | .ok plan =>
        let header := plan.writePrefixAndHeader [] message.header
        match now.checkedAdd self.policy.residence with
        | none => (.error .invariant, self.release permit.charge)
        | some deadline =>
          (.ok (), { self with
            queue := self.queue ++
              [⟨frame.writeId, header ++ permit.bytes.drop stampLength, deadline, permit.charge⟩] })

/-- `try_admit`: encodes and queues a control frame; a Data frame needs a permit. -/
def tryAdmit (self : BoundedWriter) (frame : OutboundFrame) (now : MonoTime) :
    Except WriteAdmissionError Unit × BoundedWriter :=
  match frame.message with
  | .data _ => (.error .invariant, self)
  | .control message =>
    if self.closed then (.error .closed, self)
    else if self.controlSlots = 0 then (.error .full, self)
    else if self.freeSlots = 0 then (.error .full, self)
    else
      let bytes := self.encoder.encodeControl message
      match now.checkedAdd self.policy.residence with
      | none => (.error .invariant, self)
      | some deadline =>
        (.ok (), { self with
          freeSlots := self.freeSlots - 1
          controlSlots := self.controlSlots - 1
          queue := self.queue ++ [⟨frame.writeId, bytes, deadline, ⟨.control, none⟩⟩] })

/-! ## What is admitted -/

variable {self : BoundedWriter}

/-- **A reservation holds a placeholder with the text of the body behind it.**  The text is
measured and written before Core is called, so the admission can only stamp it. -/
theorem tryReserveMessage_eq_ok {body : Option SecsItem} {permit : PreparedData}
    (h : (self.tryReserveMessage body).1 = .ok permit) : ∃ plan framePlan,
      prepareBody body = .ok plan ∧ self.encoder.planData plan.encodedLength = .ok framePlan ∧
      permit.bytes = List.replicate stampLength 0 ++ plan.text := by
  unfold tryReserveMessage at h
  split at h
  · cases h
  · split at h
    · cases h
    · rename_i plan hbody
      split at h
      · cases h
      · rename_i frame hframe
        split_ifs at h
        split at h
        · cases h
        · rename_i encoded hencoded
          rw [plan.writeInto_eq] at hencoded
          refine ⟨plan, frame, hbody, hframe, ?_⟩
          obtain rfl := Except.ok.inj h
          exact (Except.ok.inj hencoded).symm

/-- The writer has room for a Data frame of this length: it is open, a Data slot and a place in the
FIFO are free, and the byte budget holds the frame, whose bytes are charged as a `u32`. -/
structure HasRoom (writer : BoundedWriter) (length : ℕ) : Prop where
  running : writer.closed = false
  slot : 0 < writer.dataSlots
  place : 0 < writer.freeSlots
  bytes : length ≤ writer.dataBytes
  charged : length ≤ u32Max

/-- **A body whose frame fits and has room is reserved**, on every target that can count the frame.
-/
theorem tryReserveMessage_of_room {body : Option SecsItem} {plan : Secs2BodyPlan} {target : Target}
    (hbody : prepareBody body = .ok plan)
    (hfits : hsmsHeaderLength + plan.encodedLength ≤ self.encoder.maxMessageLength)
    (hroom : self.HasRoom (lengthPrefixBytes + (hsmsHeaderLength + plan.encodedLength))) :
    ∃ permit, self.tryReserveMessage body target = (.ok permit, { self with
        freeSlots := self.freeSlots - 1
        dataSlots := self.dataSlots - 1
        dataBytes :=
          self.dataBytes - (lengthPrefixBytes + (hsmsHeaderLength + plan.encodedLength)) }) ∧
      permit.owner = self.owner ∧ permit.bytes = List.replicate stampLength 0 ++ plan.text := by
  have hplan := planData_eq_ok_iff.mpr ⟨hfits, hroom.charged.trans target.wide, rfl⟩
  unfold tryReserveMessage
  rw [hroom.running, if_neg Bool.false_ne_true, hbody]
  dsimp only
  rw [hplan]
  dsimp only
  rw [if_neg (Nat.not_lt.mpr hroom.charged), if_neg hroom.slot.ne',
    if_neg (Nat.not_lt.mpr hroom.bytes), if_neg hroom.place.ne']
  split
  · rename_i source hwrite
    rw [plan.writeInto_eq] at hwrite
    cases hwrite
  · rename_i encoded hencoded
    rw [plan.writeInto_eq] at hencoded
    exact ⟨_, rfl, rfl, (Except.ok.inj hencoded).symm⟩

/-- **A permit is admitted** as the encoding of its message, while the FIFO is open and the clock
can count the deadline. -/
theorem admitReservedData_of_permit {body : Option SecsItem} {plan : Secs2BodyPlan}
    {codec : HsmsSsCodec}
    {permit : PreparedData} {frame : OutboundFrame} {message : DataMessage}
    {now deadline : MonoTime}
    (hbody : prepareBody body = .ok plan) (hcodec : codec.wireEncoder = self.encoder)
    (hfits : hsmsHeaderLength + plan.encodedLength ≤ self.encoder.maxMessageLength)
    (howner : permit.owner = self.owner)
    (hbytes : permit.bytes = List.replicate stampLength 0 ++ plan.text)
    (hrunning : self.closed = false)
    (hframe : frame.message = .data message)
    (hdeadline : now.checkedAdd self.policy.residence = some deadline) :
    ∃ bytes, codec.encodeData ⟨message.header, body⟩ = .ok bytes ∧
      self.admitReservedData permit frame now = (.ok (), { self with
        queue := self.queue ++ [⟨frame.writeId, bytes, deadline, permit.charge⟩] }) := by
  have hplan := planData_eq_ok.mpr ⟨hfits, rfl⟩
  have htext : permit.bytes.length - stampLength = plan.encodedLength := by
    rw [hbytes, List.length_append, List.length_replicate, Nat.add_sub_cancel_left,
      plan.encodedLength_eq]
  refine ⟨_, HsmsSsCodec.encodeData_eq_ok.mpr ⟨plan, _, hbody, hcodec ▸ hplan, rfl⟩, ?_⟩
  unfold admitReservedData
  rw [if_neg (not_not.mpr howner.symm), hrunning, if_neg Bool.false_ne_true, hframe]
  dsimp only
  rw [htext, hplan]
  dsimp only
  rw [hdeadline, hbytes, List.drop_left' List.length_replicate]

/-- **What is stamped over the placeholder makes the encoding of the message.**  The codec would
have written the same bytes in one pass. -/
theorem admitReservedData_bytes {body : Option SecsItem} {permit : PreparedData}
    (hreserve : (self.tryReserveMessage body).1 = .ok permit) {codec : HsmsSsCodec}
    (hcodec : codec.wireEncoder = self.encoder) {later after : BoundedWriter}
    (hlater : later.encoder = self.encoder) {frame : OutboundFrame} {message : DataMessage}
    (hframe : frame.message = .data message) {now : MonoTime}
    (hqueued : later.admitReservedData permit frame now = (.ok (), after)) :
    ∃ bytes deadline, codec.encodeData ⟨message.header, body⟩ = .ok bytes ∧
      after.queue = later.queue ++ [⟨frame.writeId, bytes, deadline, permit.charge⟩] := by
  obtain ⟨plan, framePlan, hbody, hplan, hbytes⟩ := tryReserveMessage_eq_ok hreserve
  have htext : permit.bytes.length - stampLength = plan.encodedLength := by
    rw [hbytes, List.length_append, List.length_replicate, Nat.add_sub_cancel_left,
      plan.encodedLength_eq]
  unfold admitReservedData at hqueued
  split_ifs at hqueued
  · cases hqueued
  · cases hqueued
  · rw [hframe] at hqueued
    dsimp only at hqueued
    rw [htext, hlater, hplan] at hqueued
    dsimp only at hqueued
    split at hqueued
    · cases hqueued
    · rename_i deadline hdeadline
      obtain rfl := (Prod.mk.inj hqueued).2
      refine ⟨_, deadline, HsmsSsCodec.encodeData_eq_ok.mpr
        ⟨plan, framePlan, hbody, hcodec ▸ hplan, rfl⟩, ?_⟩
      rw [hbytes, List.drop_left' List.length_replicate]

/-- **A control frame is admitted** as its encoding, while the FIFO is open and has room for it, and
the clock can count the deadline. -/
theorem tryAdmit_of_room {codec : HsmsSsCodec} (hcodec : codec.wireEncoder = self.encoder)
    {message : ControlMessage} {now deadline : MonoTime} (hrunning : self.closed = false)
    (hslot : 0 < self.controlSlots) (hplace : 0 < self.freeSlots)
    (hdeadline : now.checkedAdd self.policy.residence = some deadline) (writeId : WriteId) :
    ∃ bytes, codec.encode (.control message) = .ok bytes ∧
      self.tryAdmit ⟨writeId, .control message⟩ now = (.ok (), { self with
        freeSlots := self.freeSlots - 1
        controlSlots := self.controlSlots - 1
        queue := self.queue ++ [⟨writeId, bytes, deadline, ⟨.control, none⟩⟩] }) := by
  refine ⟨_, rfl, ?_⟩
  unfold tryAdmit
  dsimp only
  rw [hrunning, if_neg Bool.false_ne_true, if_neg hslot.ne', if_neg hplace.ne', hdeadline, hcodec]

/-- **A control frame is queued as it would be encoded.**  There is nothing to reserve, since it
has no text. -/
theorem tryAdmit_bytes {codec : HsmsSsCodec} (hcodec : codec.wireEncoder = self.encoder)
    {after : BoundedWriter} {writeId : WriteId} {message : ControlMessage} {now : MonoTime}
    (hqueued : self.tryAdmit ⟨writeId, .control message⟩ now = (.ok (), after)) :
    ∃ bytes deadline, codec.encode (.control message) = .ok bytes ∧
      after.queue = self.queue ++ [⟨writeId, bytes, deadline, ⟨.control, none⟩⟩] := by
  unfold tryAdmit at hqueued
  dsimp only at hqueued
  split_ifs at hqueued
  · cases hqueued
  · cases hqueued
  · cases hqueued
  · split at hqueued
    · cases hqueued
    · rename_i deadline hdeadline
      obtain rfl := (Prod.mk.inj hqueued).2
      exact ⟨_, deadline, rfl, by rw [hcodec]⟩

end BoundedWriter

/-! ## Encoding and decoding -/

/-- The value that a validated header stands for. -/
def ValidatedFrame.value : ValidatedFrame → DataHeader ⊕ ControlMessage
  | .data frame => .inl frame.header
  | .control message => .inr message

theorem ValidatedFrame.header_raw {frame frame' : ValidatedFrame} (h : frame.value = frame'.value) :
    frame.raw.header = frame'.raw.header := by
  cases frame with
  | data frame =>
    cases frame' with
    | data frame' => exact congrArg dataHeaderBytes (Sum.inl.inj h)
    | control message => cases h
  | control message =>
    cases frame' with
    | data frame' => cases h
    | control message' => exact congrArg controlHeaderBytes (Sum.inr.inj h)

/-- **Encoding and decoding are inverse to each other, on the production path too.**  The codec
encodes exactly the messages that fit the Message Length, and decodes what it has encoded to the
same message, with whatever follows left in place.  A Data message that fits is reserved by every
writer that has room for its frame, and admitted, at any later time, as what the codec encodes it
to; a control message is admitted so in one step; and whatever is admitted is queued as that
encoding and nothing else.  A header that is validated is the one that its value is encoded to, so
two headers with one value are one header. -/
theorem encode_decode_inverse (limits : EndpointLimits) (decoder : DecodeLimits) :
    let codec := HsmsSsCodec.new limits decoder
    (∀ message : ProtocolMessage, message.Fits limits.maxMessageLength ↔
      ∃ bytes, codec.encode message = .ok bytes) ∧
    (∀ message bytes, codec.encode message = .ok bytes → message.Within decoder →
      ∀ rest, codec.decode (bytes ++ rest) = (.ok (.message message), codec, rest)) ∧
    (∀ writer : BoundedWriter, writer.encoder = .new limits →
      (∀ body text, bodyText body = .ok text →
        hsmsHeaderLength + text.length ≤ limits.maxMessageLength →
        writer.HasRoom (lengthPrefixBytes + (hsmsHeaderLength + text.length)) →
        ∃ permit, writer.tryReserveMessage body = (.ok permit, { writer with
            freeSlots := writer.freeSlots - 1
            dataSlots := writer.dataSlots - 1
            dataBytes :=
              writer.dataBytes - (lengthPrefixBytes + (hsmsHeaderLength + text.length)) }) ∧
          ∀ later : BoundedWriter, later.encoder = .new limits → later.owner = writer.owner →
          later.closed = false → ∀ frame message, frame.message = .data message →
          ∀ now deadline, now.checkedAdd later.policy.residence = some deadline →
          ∃ bytes, codec.encode (.data ⟨message.header, body⟩) = .ok bytes ∧
            later.admitReservedData permit frame now = (.ok (), { later with
              queue := later.queue ++ [⟨frame.writeId, bytes, deadline, permit.charge⟩] })) ∧
      (∀ message now deadline, writer.closed = false → 0 < writer.controlSlots →
        0 < writer.freeSlots → now.checkedAdd writer.policy.residence = some deadline → ∀ writeId,
        ∃ bytes, codec.encode (.control message) = .ok bytes ∧
          writer.tryAdmit ⟨writeId, .control message⟩ now = (.ok (), { writer with
            freeSlots := writer.freeSlots - 1
            controlSlots := writer.controlSlots - 1
            queue := writer.queue ++ [⟨writeId, bytes, deadline, ⟨.control, none⟩⟩] })) ∧
      (∀ body permit, (writer.tryReserveMessage body).1 = .ok permit →
        ∀ later : BoundedWriter, later.encoder = .new limits →
        ∀ frame message, frame.message = .data message →
        ∀ now after, later.admitReservedData permit frame now = (.ok (), after) →
        ∃ bytes deadline, codec.encode (.data ⟨message.header, body⟩) = .ok bytes ∧
          after.queue = later.queue ++ [⟨frame.writeId, bytes, deadline, permit.charge⟩]) ∧
      ∀ writeId message now after,
        writer.tryAdmit ⟨writeId, .control message⟩ now = (.ok (), after) →
        ∃ bytes deadline, codec.encode (.control message) = .ok bytes ∧
          after.queue = writer.queue ++ [⟨writeId, bytes, deadline, ⟨.control, none⟩⟩]) ∧
    (∀ raw frame, validate raw = .ok frame → frame.raw = raw) ∧
    ∀ raw raw' frame frame', validate raw = .ok frame → validate raw' = .ok frame' →
      frame.value = frame'.value → raw.header = raw'.header := by
  intro codec
  have hencodes {message : ProtocolMessage} : (∃ bytes, codec.encode message = .ok bytes) ↔
      message.Fits limits.maxMessageLength := HsmsSsCodec.encode_isOk_iff
  refine ⟨fun message => hencodes.symm, fun message bytes hencode hwithin rest => ?_,
    fun writer hwriter => ⟨fun body text htext hfits hroom => ?_,
      fun message now deadline hrunning hslot hplace hdeadline writeId => ?_,
      fun body permit hreserve later hlater frame message hframe now after hqueued => ?_,
      fun writeId message now after hqueued => ?_⟩,
    fun raw frame hvalid => header_of_validate hvalid,
    fun raw raw' frame frame' hvalid hvalid' hvalue => ?_⟩
  · have hroom : hsmsHeaderLength ≤ codec.wireEncoder.maxMessageLength := limits.header_le
    obtain ⟨raw, rfl, hfits, hmeans⟩ := HsmsSsCodec.exists_of_encode hroom hencode
    rw [HsmsSsCodec.decode_frame (HsmsSsCodec.running_new limits decoder) hfits]
    exact congrArg (fun step => (Except.ok step, codec, rest)) (hmeans decoder hwithin)
  · obtain ⟨plan, hbody, rfl⟩ := exists_plan_of_bodyText htext
    rw [← plan.encodedLength_eq] at hfits hroom ⊢
    have hwithin {self : BoundedWriter} (hself : self.encoder = .new limits) :
        hsmsHeaderLength + plan.encodedLength ≤ self.encoder.maxMessageLength := by
      rw [hself]
      exact hfits
    obtain ⟨permit, hreserve, howner, hbytes⟩ :=
      BoundedWriter.tryReserveMessage_of_room hbody (hwithin hwriter) hroom
    refine ⟨permit, hreserve, fun later hlater hsame hrunning frame message hframe now deadline
      hdeadline => ?_⟩
    exact BoundedWriter.admitReservedData_of_permit hbody hlater.symm (hwithin hlater)
      (howner.trans hsame.symm) hbytes hrunning hframe hdeadline
  · exact BoundedWriter.tryAdmit_of_room hwriter.symm hrunning hslot hplace hdeadline writeId
  · exact BoundedWriter.admitReservedData_bytes hreserve hwriter.symm (hlater.trans hwriter.symm)
      hframe hqueued
  · exact BoundedWriter.tryAdmit_bytes hwriter.symm hqueued
  · rw [← header_of_validate hvalid, ← header_of_validate hvalid']
    exact ValidatedFrame.header_raw hvalue

/-- The default writer: it reserves the frame and queues these bytes, and they are decoded to the
message. -/
theorem encode_decode_inverse_of_primary :
    ∃ writer permit reserved after deadline,
      BoundedWriter.new 0 .default RuntimePolicy.default.writerPolicy = .ok writer ∧
      writer.tryReserveMessage samplePrimary.body = (.ok permit, reserved) ∧
      reserved.admitReservedData permit ⟨⟨0⟩, .data samplePrimary⟩ .zero = (.ok (), after) ∧
      after.queue = [⟨⟨0⟩, sampleBytes, deadline, permit.charge⟩] ∧
      ∀ rest, (HsmsSsCodec.new .default .default).decode (sampleBytes ++ rest) =
        (.ok (.message (.data samplePrimary)), .new .default .default, rest) := by
  obtain ⟨-, hdecodes, hwrites, -⟩ := encode_decode_inverse .default .default
  have hnew : ∃ writer, BoundedWriter.new 0 .default RuntimePolicy.default.writerPolicy =
      .ok writer ∧
      writer.encoder = .new .default ∧ writer.HasRoom 25 ∧ writer.queue = [] ∧
      ∃ deadline, MonoTime.zero.checkedAdd writer.policy.residence = some deadline :=
    ⟨_, rfl, rfl, by constructor <;> decide, rfl, _, rfl⟩
  obtain ⟨writer, hnew, hencoder, hroom, hempty, deadline, hdeadline⟩ := hnew
  obtain ⟨permit, hreserve, hadmits⟩ :=
    (hwrites writer hencoder).1 samplePrimary.body (sampleBytes.drop 14) rfl (by decide) hroom
  obtain ⟨bytes, hencode, hadmit⟩ := hadmits
    { writer with
      freeSlots := writer.freeSlots - 1
      dataSlots := writer.dataSlots - 1
      dataBytes := writer.dataBytes - 25 } hencoder rfl hroom.running ⟨⟨0⟩, .data samplePrimary⟩
    samplePrimary rfl .zero deadline hdeadline
  have hbytes : (HsmsSsCodec.new .default .default).encode
      (.data samplePrimary) = .ok sampleBytes := rfl
  obtain rfl : sampleBytes = bytes := Except.ok.inj (hbytes.symm.trans hencode)
  exact ⟨writer, permit, _, _, deadline, hnew, hreserve, hadmit, congrArg (· ++ _) hempty,
    hdecodes _ _ hbytes samplePrimary_within⟩

end Hsms
end SecsRust
