import SecsRust.Secs2.Codec.RoundTrip
import SecsRust.Hsms.Wire.Framer

/-!
# The HSMS-SS codec

`hsms/codec.rs` with the presentation profile of `hsms/profile/secs2.rs`: framing, header
validation and SECS-II Message Text, composed for one generation.

An input buffer may hold any part of the stream.  A decode looks at the front of it and does
one of three things: it waits for more and consumes nothing, it consumes exactly one frame,
or it finds an illegal length and never decodes again (`HsmsSsCodec.decode_cases`).  Which
of them it is, depends on what the framer calls lacking; what a complete frame then means is
a function of that frame alone (`HsmsSsCodec.interpret`), so a frame that cannot be
interpreted costs nothing but itself.

## Encoding

A Data message is encoded by two plans, one of its body and one of its frame, which are made
before a byte is written.  A body without a value has a plan as well, of no bytes, and
decoding no bytes gives no body; that is why `bodyText` and `decodeText` treat an absent
body and an item alike.

`encode_isOk_iff` says which messages are encoded: exactly those that fit
(`ProtocolMessage.Fits`), that is, whose body the SECS-II encoder accepts, with a text that
keeps to the Message Length.  What is encoded is one frame that means its message again
(`exists_of_encode`), under all decode limits that the body satisfies. Those limits are the
receiver's and not the sender's, which is why they are a hypothesis of their own.
-/

namespace SecsRust
namespace Hsms

open Secs2

/-! ## The profile -/

/-- `Secs2BodyPlan`: a body that has been measured and is ready to be written.  No body is
planned too; it takes no bytes. -/
inductive Secs2BodyPlan where
  | absent
  | item (plan : EncodedItemPlan)

namespace Secs2BodyPlan

/-- `encoded_length`: the length of the Message Text that the plan will write. -/
def encodedLength : Secs2BodyPlan → ℕ
  | absent => 0
  | item plan => plan.encodedLength

/-- `write_into`: appends the Message Text to what the output holds. -/
def writeInto (output : List UInt8) : Secs2BodyPlan → Except Secs2.EncodeError (List UInt8)
  | absent => .ok output
  | item plan => plan.writeInto output

end Secs2BodyPlan

/-- `decode_text`: empty text is no item, other text is exactly one. -/
def decodeText (decoder : DecodeLimits) (text : Secs2.ByteSlice) :
    Except DecodeError (Option SecsItem) :=
  if text.bytes.isEmpty then .ok none else (decodeItem decoder text).map some

/-- `prepare_body`: measures a body, if there is one, before a byte of its frame is written. -/
def prepareBody : Option SecsItem → Except Secs2.EncodeError Secs2BodyPlan
  | none => .ok .absent
  | some item => (EncodedItemPlan.new item).map .item

/-! ## The codec -/

/-- `HsmsSsDecodeStep`: what one decode comes to, unless the framing has failed.  The two
violations stand for complete frames, which are consumed. -/
inductive HsmsSsDecodeStep where
  | needMore (progress : FrameReadProgress)
  | message (message : ProtocolMessage)
  | headerViolation (violation : HeaderViolation)
  | payloadViolation (violation : PayloadViolation) (source : DecodeError)

/-- `HsmsSsEncodeError`: the body cannot be encoded, or the frame would not keep to its lengths.
Both name the header of the message. -/
inductive HsmsSsEncodeError where
  | payload (header : DataHeader) (source : Secs2.EncodeError)
  | frame (header : DataHeader) (source : FrameEncodeError)
  deriving DecidableEq

/-- `classify_payload_error`: a limit of the decoder is a matter of resources, everything else of
the text itself. -/
def classifyPayloadError : DecodeError → PayloadViolationKind
  | .depthExceeded .. | .totalItemsExceeded .. | .itemBytesExceeded .. | .listItemsExceeded ..
  | .arithmeticOverflow .. => .resourceLimitExceeded
  | _ => .malformedSecs2

/-- `HsmsSsCodec`: the framer, the limits of the SECS-II decoder and the encoder.  Nothing else
of the stream is remembered from one frame to the next. -/
structure HsmsSsCodec where
  frameDecoder : HsmsFrameDecoder
  decoder : DecodeLimits
  wireEncoder : HsmsWireEncoder

namespace HsmsSsCodec

/-- `HsmsSsCodec::new`: the framer and the encoder of one generation share its Message Length
bound. -/
def new (limits : EndpointLimits) (decoder : DecodeLimits) : HsmsSsCodec where
  frameDecoder := .new limits
  decoder := decoder
  wireEncoder := .new limits

/-- What `decode` makes of a complete frame. -/
def interpret (decoder : DecodeLimits) (raw : RawFrame) : HsmsSsDecodeStep :=
  match validate raw with
  | .error violation => .headerViolation violation
  | .ok (.control message) => .message (.control message)
  | .ok (.data frame) =>
    match decodeText decoder frame.text with
    | .ok body => .message (.data ⟨frame.header, body⟩)
    | .error source => .payloadViolation ⟨frame.header, classifyPayloadError source⟩ source

/-- `HsmsSsCodec::decode`: the result, the codec and what is left of the input. -/
def decode (codec : HsmsSsCodec) (input : List UInt8) :
    Except FramingFault HsmsSsDecodeStep × HsmsSsCodec × List UInt8 :=
  match codec.frameDecoder.decode input with
  | (.error fault, frameDecoder, rest) =>
    (.error fault, { codec with frameDecoder := frameDecoder }, rest)
  | (.ok (.needMore progress), frameDecoder, rest) =>
    (.ok (.needMore progress), { codec with frameDecoder := frameDecoder }, rest)
  | (.ok (.frame raw), frameDecoder, rest) =>
    (.ok (interpret codec.decoder raw), { codec with frameDecoder := frameDecoder }, rest)

/-- `encode_data`: the plan of the body comes before the plan of the frame, and both before the
first byte, so an error leaves nothing half written. -/
def encodeData (codec : HsmsSsCodec) (message : DataMessage) :
    Except HsmsSsEncodeError (List UInt8) :=
  match prepareBody message.body with
  | .error source => .error (.payload message.header source)
  | .ok bodyPlan =>
    match codec.wireEncoder.planData bodyPlan.encodedLength with
    | .error source => .error (.frame message.header source)
    | .ok framePlan =>
      match bodyPlan.writeInto (framePlan.writePrefixAndHeader [] message.header) with
      | .error source => .error (.payload message.header source)
      | .ok output => .ok output

/-- `HsmsSsCodec::encode`: a control message is a header alone and always encoded. -/
def encode (codec : HsmsSsCodec) : ProtocolMessage → Except HsmsSsEncodeError (List UInt8)
  | .control message => .ok (codec.wireEncoder.encodeControl message)
  | .data message => codec.encodeData message

end HsmsSsCodec

/-! ## Bodies -/

namespace Secs2BodyPlan

/-- The Message Text of a plan. -/
def text : Secs2BodyPlan → List UInt8
  | absent => []
  | item plan => plan.item.preorder.flatMap nodeBytes

theorem encodedLength_eq (plan : Secs2BodyPlan) : plan.encodedLength = plan.text.length := by
  cases plan with
  | absent => rfl
  | item plan => exact (measure_eq_ok.mp plan.measured).2.1

theorem addressable (plan : Secs2BodyPlan) : plan.text.length ≤ usizeMax := by
  rw [← plan.encodedLength_eq]
  cases plan with
  | absent => exact Nat.zero_le _
  | item plan => exact (measure_eq_ok.mp plan.measured).2.2

/-- **A plan appends its text.**  The only failures of writing are those of measuring, and the
plan carries the proof that the body was measured. -/
theorem writeInto_eq (plan : Secs2BodyPlan) (output : List UInt8) :
    plan.writeInto output = .ok (output ++ plan.text) := by
  cases plan with
  | absent => exact congrArg Except.ok (List.append_nil output).symm
  | item plan => exact writeItemTree_of_le output (measure_eq_ok.mp plan.measured).1

end Secs2BodyPlan

theorem prepareBody_some {item : SecsItem} {plan : Secs2BodyPlan}
    (h : prepareBody (some item) = .ok plan) : encodeToVec item = .ok plan.text := by
  have hnew : (EncodedItemPlan.new item).map .item = .ok plan := h
  unfold EncodedItemPlan.new at hnew
  split at hnew
  · cases hnew
  · rename_i size hmeasure
    obtain ⟨hall, hlength, hfits⟩ := measure_eq_ok.mp hmeasure
    obtain rfl := Except.ok.inj hnew
    exact encodeToVec_eq_ok.mpr ⟨hall, rfl, hlength ▸ hfits⟩

/-- The Message Text of a body: none for an absent body, and for an item what the SECS-II encoder
writes, if it accepts the item. -/
def bodyText : Option SecsItem → Except Secs2.EncodeError (List UInt8)
  | none => .ok []
  | some item => encodeToVec item

/-- **A body that has a Message Text is prepared for it.**  The two computations of a length are
one, so a caller that reserves for the plan has reserved for the text. -/
theorem exists_plan_of_bodyText {body : Option SecsItem} {text : List UInt8}
    (h : bodyText body = .ok text) :
    ∃ plan : Secs2BodyPlan, prepareBody body = .ok plan ∧ plan.text = text := by
  cases body with
  | none => exact ⟨.absent, rfl, Except.ok.inj h⟩
  | some item =>
    obtain ⟨plan, hplan, hitem, htext⟩ := exists_plan_of_encodeToVec h
    refine ⟨.item plan, ?_, ?_⟩
    · show (EncodedItemPlan.new item).map Secs2BodyPlan.item = _
      rw [hplan]
      rfl
    · rw [htext, ← hitem]
      rfl

theorem bodyText_of_prepareBody {body : Option SecsItem} {plan : Secs2BodyPlan}
    (h : prepareBody body = .ok plan) : bodyText body = .ok plan.text := by
  cases body with
  | none =>
    obtain rfl := Except.ok.inj h
    rfl
  | some item => exact prepareBody_some h

/-- The body keeps within decode limits. -/
def BodyWithin (limits : DecodeLimits) (body : Option SecsItem) : Prop :=
  ∀ item, body = some item → item.Within limits

/-- **The text of a body is decoded to that body**: no text to no item, and text to its item. -/
theorem decodeText_text {limits : DecodeLimits} {body : Option SecsItem} {plan : Secs2BodyPlan}
    (h : prepareBody body = .ok plan) (hwithin : BodyWithin limits body) :
    decodeText limits ⟨plan.text, plan.addressable⟩ = .ok body := by
  cases body with
  | none =>
    obtain rfl := Except.ok.inj h
    rfl
  | some item =>
    obtain ⟨_, hdecode⟩ := decode_undoes_encode (prepareBody_some h) (hwithin item rfl)
    unfold decodeText
    rw [hdecode]
    refine if_neg fun hempty => ?_
    unfold decodeItem at hdecode
    rw [if_pos hempty] at hdecode
    cases hdecode

/-! ## Encoding -/

/-- **A frame is planned exactly if its message is within the bound** and its length can be counted.
-/
theorem planData_eq_ok_iff {encoder : HsmsWireEncoder} {textLength : ℕ} {target : Target}
    {plan : DataFramePlan} :
    encoder.planData textLength target = .ok plan ↔
      hsmsHeaderLength + textLength ≤ encoder.maxMessageLength ∧
      lengthPrefixBytes + (hsmsHeaderLength + textLength) ≤ target.usizeMax ∧
      plan = ⟨UInt32.ofNat (hsmsHeaderLength + textLength),
        lengthPrefixBytes + (hsmsHeaderLength + textLength)⟩ := by
  unfold HsmsWireEncoder.planData
  constructor
  · intro h
    split at h
    · cases h
    · rename_i messageLength hmessage
      obtain rfl := Target.checkedAdd_eq_some hmessage
      split at h
      · cases h
      · rename_i hfits
        split at h
        · cases h
        · rename_i encodedLength hencoded
          obtain ⟨hcounted, rfl⟩ := Target.checkedAdd_eq_some_iff.mp hencoded
          exact ⟨Nat.not_lt.mp hfits, hcounted, (Except.ok.inj h).symm⟩
  · rintro ⟨hfits, hcounted, rfl⟩
    rw [Target.checkedAdd_of_fits ((Nat.le_add_left _ _).trans hcounted)]
    dsimp only
    rw [if_neg (Nat.not_lt.mpr hfits), Target.checkedAdd_of_fits hcounted]

/-- On 64-bit targets the length of every message within the bound can be counted. -/
theorem planData_eq_ok {encoder : HsmsWireEncoder} {textLength : ℕ} {plan : DataFramePlan} :
    encoder.planData textLength = .ok plan ↔
      hsmsHeaderLength + textLength ≤ encoder.maxMessageLength ∧
      plan = ⟨UInt32.ofNat (hsmsHeaderLength + textLength),
        lengthPrefixBytes + (hsmsHeaderLength + textLength)⟩ := by
  have haddressable : lengthPrefixBytes + u32Max ≤ Target.sixtyFour.usizeMax := by decide
  rw [planData_eq_ok_iff]
  refine and_congr_right fun hfits => and_iff_right ?_
  exact (Nat.add_le_add_left (hfits.trans encoder.message_le) _).trans haddressable

/-- The frame of a Data message with this text. -/
def dataFrame (header : DataHeader) (text : Secs2.ByteSlice) : RawFrame :=
  ⟨dataHeaderBytes header, text⟩

/-- The frame of a control message. -/
def controlFrame (message : ControlMessage) : RawFrame := ⟨controlHeaderBytes message, noText⟩

theorem encodeControl_eq (encoder : HsmsWireEncoder) (message : ControlMessage) :
    encoder.encodeControl message = (controlFrame message).bytes := by
  unfold HsmsWireEncoder.encodeControl RawFrame.bytes controlFrame noText
  rw [List.append_nil]
  rfl

/-- What is stamped in front of a text makes its frame. -/
theorem writePrefixAndHeader_append {encoder : HsmsWireEncoder} (text : Secs2.ByteSlice)
    {plan : DataFramePlan} (h : encoder.planData text.bytes.length = .ok plan)
    (header : DataHeader) :
    plan.writePrefixAndHeader [] header ++ text.bytes = (dataFrame header text).bytes := by
  obtain ⟨-, rfl⟩ := planData_eq_ok.mp h
  unfold DataFramePlan.writePrefixAndHeader RawFrame.bytes
  rw [List.nil_append, List.append_assoc]
  rfl

/-- The message keeps within decode limits. -/
def ProtocolMessage.Within (limits : DecodeLimits) : ProtocolMessage → Prop
  | .data message => BodyWithin limits message.body
  | .control _ => True

/-- **The message fits a bound on the Message Length**: the SECS-II encoder accepts its body, and
ten bytes of header and the text keep within the bound.  A control message is a header alone, for
which every bound has room. -/
def ProtocolMessage.Fits (maxMessageLength : ℕ) : ProtocolMessage → Prop
  | .data message => ∃ text, bodyText message.body = .ok text ∧
      hsmsHeaderLength + text.length ≤ maxMessageLength
  | .control _ => True

namespace HsmsSsCodec

theorem interpret_controlFrame (limits : DecodeLimits) (message : ControlMessage) :
    interpret limits (controlFrame message) = .message (.control message) := by
  unfold interpret controlFrame
  rw [validate_controlHeaderBytes]

theorem interpret_dataFrame {limits : DecodeLimits} {header : DataHeader} {body : Option SecsItem}
    {plan : Secs2BodyPlan} (h : prepareBody body = .ok plan) (hwithin : BodyWithin limits body) :
    interpret limits (dataFrame header ⟨plan.text, plan.addressable⟩) =
      .message (.data ⟨header, body⟩) := by
  unfold interpret dataFrame
  rw [validate_dataHeaderBytes]
  dsimp only
  rw [decodeText_text h hwithin]

/-- **A Data message is encoded by a plan of its body and a plan of its frame.** -/
theorem encodeData_eq_ok {codec : HsmsSsCodec} {message : DataMessage} {bytes : List UInt8} :
    codec.encodeData message = .ok bytes ↔ ∃ bodyPlan framePlan,
      prepareBody message.body = .ok bodyPlan ∧
      codec.wireEncoder.planData bodyPlan.encodedLength = .ok framePlan ∧
      bytes = framePlan.writePrefixAndHeader [] message.header ++ bodyPlan.text := by
  unfold encodeData
  constructor
  · intro h
    split at h
    · cases h
    · rename_i bodyPlan hbody
      split at h
      · cases h
      · rename_i framePlan hframe
        rw [bodyPlan.writeInto_eq] at h
        exact ⟨bodyPlan, framePlan, hbody, hframe, (Except.ok.inj h).symm⟩
  · rintro ⟨bodyPlan, framePlan, hbody, hframe, rfl⟩
    rw [hbody]
    dsimp only
    rw [hframe]
    dsimp only
    rw [bodyPlan.writeInto_eq]

/-- **Exactly the messages that fit are encoded.**  Fitting speaks of the body and of its text
alone, without a word about the steps of the encoder. -/
theorem encode_isOk_iff {codec : HsmsSsCodec} {message : ProtocolMessage} :
    (∃ bytes, codec.encode message = .ok bytes) ↔
      message.Fits codec.wireEncoder.maxMessageLength := by
  cases message with
  | control message => exact iff_of_true ⟨_, rfl⟩ trivial
  | data message =>
    constructor
    · rintro ⟨bytes, hencode⟩
      obtain ⟨plan, framePlan, hbody, hframe, -⟩ := encodeData_eq_ok.mp hencode
      refine ⟨plan.text, bodyText_of_prepareBody hbody, ?_⟩
      rw [← plan.encodedLength_eq]
      exact (planData_eq_ok.mp hframe).1
    · rintro ⟨text, htext, hfits⟩
      obtain ⟨plan, hbody, rfl⟩ := exists_plan_of_bodyText htext
      rw [← plan.encodedLength_eq] at hfits
      exact ⟨_, encodeData_eq_ok.mpr ⟨plan, _, hbody, planData_eq_ok.mpr ⟨hfits, rfl⟩, rfl⟩⟩

/-- **The encoder writes a frame that means its message.**  The frame is within the bound, and
interpreting it gives the message under every decode limit that its body satisfies. -/
theorem exists_of_encode {codec : HsmsSsCodec} {message : ProtocolMessage} {bytes : List UInt8}
    (hroom : hsmsHeaderLength ≤ codec.wireEncoder.maxMessageLength)
    (h : codec.encode message = .ok bytes) :
    ∃ raw : RawFrame, bytes = raw.bytes ∧ raw.Fits codec.wireEncoder.maxMessageLength ∧
      ∀ limits, message.Within limits → interpret limits raw = .message message := by
  cases message with
  | control message =>
    refine ⟨controlFrame message, ?_, hroom, fun limits _ => interpret_controlFrame limits message⟩
    rw [← encodeControl_eq codec.wireEncoder]
    exact (Except.ok.inj h).symm
  | data message =>
    obtain ⟨bodyPlan, framePlan, hbody, hframe, rfl⟩ := encodeData_eq_ok.mp h
    rw [bodyPlan.encodedLength_eq] at hframe
    refine ⟨dataFrame message.header ⟨bodyPlan.text, bodyPlan.addressable⟩, ?_,
      (planData_eq_ok.mp hframe).1, fun limits hwithin => interpret_dataFrame hbody hwithin⟩
    exact writePrefixAndHeader_append ⟨bodyPlan.text, bodyPlan.addressable⟩ hframe _

end HsmsSsCodec

/-! ## Decoding -/

/-- No more input is waited for: the step is a message or a violation. -/
def HsmsSsDecodeStep.IsComplete : HsmsSsDecodeStep → Prop
  | needMore _ => False
  | _ => True

namespace HsmsSsCodec

/-- No framing fault has stopped the codec. -/
def Running (codec : HsmsSsCodec) : Prop := codec.frameDecoder.terminalFault = none

/-- The Message Length bound of the framer. -/
def bound (codec : HsmsSsCodec) : ℕ := codec.frameDecoder.maxMessageLength

theorem bound_le (codec : HsmsSsCodec) : codec.bound ≤ u32Max := codec.frameDecoder.message_le

/-- The codec after a framing fault, which has terminated its framer. -/
def stopped (codec : HsmsSsCodec) (fault : FramingFault) : HsmsSsCodec :=
  { codec with frameDecoder := codec.frameDecoder.terminate fault }

theorem running_new (limits : EndpointLimits) (decoder : DecodeLimits) :
    (new limits decoder).Running := rfl

theorem interpret_isComplete (limits : DecodeLimits) (raw : RawFrame) :
    (interpret limits raw).IsComplete := by
  unfold interpret
  split
  · trivial
  · trivial
  · split <;> trivial

variable {codec : HsmsSsCodec} {input : List UInt8}

/-- **After a framing fault every decode returns that fault** and leaves everything as it is. -/
theorem decode_of_fault {fault : FramingFault} (h : codec.frameDecoder.terminalFault = some fault) :
    codec.decode input = (.error fault, codec, input) := by
  unfold decode
  rw [HsmsFrameDecoder.decode_of_fault h]

/-- **`NeedMore` consumes nothing**, and reports what the input lacks. -/
theorem decode_of_lacking (hrunning : codec.Running) (h : 0 < lacking codec.bound input) :
    ∃ progress, codec.decode input = (.ok (.needMore progress), codec, input) ∧
      progress.needed = lacking codec.bound input := by
  obtain ⟨progress, hdecode, hneeded⟩ := HsmsFrameDecoder.decode_of_lacking hrunning h
  refine ⟨progress, ?_, hneeded⟩
  unfold decode
  rw [hdecode]

/-- **A complete frame is consumed with nothing else**, whatever it means.  The rest of the input
is left as it is, and the codec goes on with it. -/
theorem decode_frame (hrunning : codec.Running) {raw : RawFrame} (hfits : raw.Fits codec.bound)
    (rest : List UInt8) :
    codec.decode (raw.bytes ++ rest) = (.ok (interpret codec.decoder raw), codec, rest) := by
  unfold decode
  rw [(HsmsFrameDecoder.decode_eq_frame hrunning).mpr ⟨hfits, rfl, rfl⟩]

/-- **Input that lacks nothing is a frame with a rest, or an illegal length.**  There is no third
case, so a call that neither waits nor fails makes progress. -/
theorem decode_of_full (hrunning : codec.Running) (h : lacking codec.bound input = 0) :
    (∃ raw rest, RawFrame.Fits codec.bound raw ∧ input = raw.bytes ++ rest) ∨
      ∃ fault, decidingFront codec.bound input = lengthPrefixBytes ∧
        ∀ more, codec.decode (input ++ more) = (.error fault, codec.stopped fault,
          input ++ more) := by
  rcases HsmsFrameDecoder.decode_of_full hrunning h with
    ⟨raw, rest, hdecode⟩ | ⟨fault, hfront, hdecode⟩
  · obtain ⟨hfits, -, hinput⟩ := (HsmsFrameDecoder.decode_eq_frame hrunning).mp hdecode
    exact .inl ⟨raw, rest, hfits, hinput⟩
  · refine .inr ⟨fault, hfront, fun more => ?_⟩
    unfold decode
    rw [hdecode more]
    rfl

/-- A frame has at least its length and its header. -/
theorem length_bytes_pos (raw : RawFrame) : 0 < raw.bytes.length := by
  rw [raw.length_bytes]
  exact Nat.lt_of_lt_of_le (by decide) (Nat.le_add_right _ _)

/-- **The three things that a decode can do.**  It takes a frame, it fails for good, or it waits
and leaves everything alone; the proofs about streams split on these and never on the code. -/
theorem decode_cases (codec : HsmsSsCodec) (input : List UInt8) :
    (∃ raw rest, RawFrame.Fits codec.bound raw ∧ input = raw.bytes ++ rest ∧
      codec.decode input = (.ok (interpret codec.decoder raw), codec, rest)) ∨
    (∃ fault after, codec.decode input = (.error fault, after, input) ∧
      after.frameDecoder.terminalFault = some fault) ∨
    ∃ progress, codec.decode input = (.ok (.needMore progress), codec, input) := by
  by_cases hrunning : codec.Running
  · rcases Nat.eq_zero_or_pos (lacking codec.bound input) with hfull | hlacking
    · rcases decode_of_full hrunning hfull with ⟨raw, rest, hfits, rfl⟩ | ⟨fault, -, hdecode⟩
      · exact .inl ⟨raw, rest, hfits, rfl, decode_frame hrunning hfits rest⟩
      · have hinput := hdecode []
        rw [List.append_nil] at hinput
        exact .inr (.inl ⟨fault, _, hinput, rfl⟩)
    · obtain ⟨progress, hdecode, -⟩ := decode_of_lacking hrunning hlacking
      exact .inr (.inr ⟨progress, hdecode⟩)
  · obtain ⟨fault, hfault⟩ := Option.ne_none_iff_exists'.mp hrunning
    exact .inr (.inl ⟨fault, codec, decode_of_fault hfault, hfault⟩)

/-- **A message or a violation consumes exactly its own frame** and leaves the codec as it was. -/
theorem exists_of_decode {step : HsmsSsDecodeStep} {after : HsmsSsCodec} {rest : List UInt8}
    (h : codec.decode input = (.ok step, after, rest)) (hcomplete : step.IsComplete) :
    ∃ raw : RawFrame, raw.Fits codec.bound ∧ input = raw.bytes ++ rest ∧ after = codec ∧
      step = interpret codec.decoder raw := by
  rcases decode_cases codec input with
    ⟨raw, rest, hfits, hinput, hdecode⟩ | ⟨fault, after, hdecode, -⟩ | ⟨progress, hdecode⟩
  · rw [hdecode] at h
    cases h
    exact ⟨raw, hfits, hinput, rfl, rfl⟩
  · rw [hdecode] at h
    cases h
  · rw [hdecode] at h
    cases h
    exact hcomplete.elim

theorem length_lt_of_decode {step : HsmsSsDecodeStep} {after : HsmsSsCodec} {rest : List UInt8}
    (h : codec.decode input = (.ok step, after, rest)) (hcomplete : step.IsComplete) :
    rest.length < input.length := by
  obtain ⟨raw, -, rfl, -⟩ := exists_of_decode h hcomplete
  rw [List.length_append]
  exact Nat.lt_add_of_pos_left (length_bytes_pos raw)

/-- **`NeedMore` leaves everything as it was.** -/
theorem unchanged_of_needMore {progress : FrameReadProgress} {after : HsmsSsCodec}
    {rest : List UInt8} (h : codec.decode input = (.ok (.needMore progress), after, rest)) :
    after = codec ∧ rest = input := by
  rcases decode_cases codec input with
    ⟨raw, rest, -, -, hdecode⟩ | ⟨fault, after, hdecode, -⟩ | ⟨progress, hdecode⟩
  · have hcomplete := interpret_isComplete codec.decoder raw
    rw [hdecode] at h
    rw [Except.ok.inj (Prod.mk.inj h).1] at hcomplete
    exact hcomplete.elim
  · rw [hdecode] at h
    cases h
  · rw [hdecode] at h
    cases h
    exact ⟨rfl, rfl⟩

/-- **A framing fault is final.**  Whatever is offered afterwards comes back untouched, with the
same fault. -/
theorem stays_stopped {fault : FramingFault} {after : HsmsSsCodec} {rest : List UInt8}
    (h : codec.decode input = (.error fault, after, rest)) (more : List UInt8) :
    after.decode more = (.error fault, after, more) := by
  rcases decode_cases codec input with
    ⟨raw, rest, -, -, hdecode⟩ | ⟨fault, after, hdecode, hfault⟩ | ⟨progress, hdecode⟩
  · rw [hdecode] at h
    cases h
  · rw [hdecode] at h
    cases h
    exact decode_of_fault hfault
  · rw [hdecode] at h
    cases h

/-- The frames of a list of encodings, with what they mean. -/
theorem exists_of_encode_all {messages : List ProtocolMessage} {encodings : List (List UInt8)}
    (hroom : hsmsHeaderLength ≤ codec.wireEncoder.maxMessageLength)
    (h : messages.mapM codec.encode = .ok encodings)
    (hwithin : ∀ message ∈ messages, message.Within codec.decoder) :
    ∃ raws : List RawFrame, encodings = raws.map RawFrame.bytes ∧
      (∀ raw ∈ raws, raw.Fits codec.wireEncoder.maxMessageLength) ∧
      raws.map (interpret codec.decoder) = messages.map .message := by
  induction messages generalizing encodings with
  | nil =>
    obtain rfl := Except.ok.inj h
    exact ⟨[], rfl, List.forall_mem_nil _, rfl⟩
  | cons message messages ih =>
    rw [List.mapM_cons] at h
    obtain ⟨bytes, hencode, h⟩ := bind_eq_ok.mp h
    obtain ⟨others, hothers, h⟩ := bind_eq_ok.mp h
    obtain rfl := pure_eq_ok.mp h
    obtain ⟨hmessage, hmessages⟩ := List.forall_mem_cons.mp hwithin
    obtain ⟨raw, rfl, hfits, hmeans⟩ := exists_of_encode hroom hencode
    obtain ⟨raws, rfl, hall, hraws⟩ := ih hothers hmessages
    refine ⟨raw :: raws, rfl, List.forall_mem_cons.mpr ⟨hfits, hall⟩, ?_⟩
    rw [List.map_cons, List.map_cons, hmeans _ hmessage, hraws]

end HsmsSsCodec

/-! ## A message and its bytes -/

/-- Session 7 is not the control session. -/
theorem seven_unreserved : (7 : UInt16) ≠ 0xFFFF := by decide

/-- Stream 1 is a stream. -/
theorem one_in_seven_bits : (1 : UInt8) ≤ 127 := by decide

/-- A Primary of session 7 that expects a reply, with a List of a Boolean and a number as its body.
-/
def samplePrimary : DataMessage where
  header := ⟨⟨7, seven_unreserved⟩, ⟨1, one_in_seven_bits⟩, ⟨1⟩, true, ⟨0x2A⟩⟩
  body := some (.list [.boolean [true], .u4 [42]])

/-- Its frame: a length, a header and eleven bytes of text. -/
def sampleBytes : List UInt8 :=
  [0x00, 0x00, 0x00, 0x15, 0x00, 0x07, 0x81, 0x01, 0x00, 0x00, 0x00, 0x00, 0x00, 0x2A,
    0x01, 0x02, 0x25, 0x01, 0x01, 0xB1, 0x04, 0x00, 0x00, 0x00, 0x2A]

theorem samplePrimary_within : (ProtocolMessage.data samplePrimary).Within .default := by
  rintro item ⟨⟩
  exact {
    nesting := by decide
    nodes := by decide
    each := by rintro _ (_ | ⟨_, _ | ⟨_, _ | ⟨_, ⟨⟩⟩⟩⟩) <;> exact ⟨by decide, by decide⟩ }

end Hsms
end SecsRust
