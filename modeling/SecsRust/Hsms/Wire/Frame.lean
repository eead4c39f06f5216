import SecsRust.Lib.Result
import SecsRust.Hsms.Protocol
import SecsRust.Secs2.Limits
import SecsRust.Secs2.Codec.Element

/-!
# Headers on the wire

`hsms/wire/frame.rs`, the header encoders of `hsms/wire/framer.rs` and the strict validator
of `hsms/wire/validator.rs`: ten bytes on one side, a Data header or a typed control message
on the other.

The validator looks at the bytes in a fixed order and reports the first violation, and where
a byte has no meaning for a kind of frame it requires it to be zero.  So it drops no byte.
What it accepts is the header that the encoder writes for the value it returns
(`header_of_validate`), and it accepts every header that the encoder writes
(`validate_dataHeaderBytes`, `validate_controlHeaderBytes`): the two are inverse to each
other (`validate_eq_ok`).

A header is read by its fields.  `fields_of_eq` gives the fields of an encoded header, and
the lemmas behind it one field each, for `simp`; the proofs about the validator then never
look at bytes.  The one field that is packed is the stream with the W-bit, which has a
section of its own.
-/

namespace SecsRust
namespace Hsms

open Secs2

/-- `RawHeader`: ten header bytes in wire order. -/
structure RawHeader where
  bytes : List UInt8
  length_eq : bytes.length = 10
  deriving DecidableEq

namespace RawHeader

/-- The byte at a header offset. -/
def byteAt (header : RawHeader) (offset : Fin 10) : UInt8 :=
  header.bytes.get (offset.cast header.length_eq.symm)

/-- `p_type`: the fifth byte, which names the presentation of the text. -/
def pType (header : RawHeader) : UInt8 := header.byteAt 4

/-- `s_type`: the sixth byte, which tells Data from the kinds of control messages. -/
def sType (header : RawHeader) : UInt8 := header.byteAt 5

/-- The two bytes of the Session ID, big-endian. -/
def sessionId (header : RawHeader) : UInt16 :=
  Element.u16.fromBeBytes [header.byteAt 0, header.byteAt 1]

/-- `system_bytes_of`: the last four bytes, most significant first. -/
def systemBytes (header : RawHeader) : SystemBytes :=
  ⟨Element.u32.fromBeBytes [header.byteAt 6, header.byteAt 7, header.byteAt 8, header.byteAt 9]⟩

/-- `HeaderSnapshot::new` on the same ten bytes. -/
def snapshot (header : RawHeader) : HeaderSnapshot :=
  ⟨⟨header.bytes.toArray, header.length_eq⟩⟩

end RawHeader

/-- `RawFrame`: a header with the Message Text behind it. -/
structure RawFrame where
  header : RawHeader
  text : Secs2.ByteSlice

/-- The text of a header-only message. -/
def noText : Secs2.ByteSlice := ⟨[], Nat.zero_le _⟩

/-- `WireDataFrame`: a Data header that has been validated, with a text that has not been looked
at. -/
structure WireDataFrame where
  header : DataHeader
  text : Secs2.ByteSlice

/-- `ValidatedFrame`: what the validator makes of a header with its text. -/
inductive ValidatedFrame where
  | data (frame : WireDataFrame)
  | control (message : ControlMessage)

/-! ## Encoding headers -/

/-- Ten header bytes from the fields of a header. -/
def headerOf (sessionId : UInt16) (headerByte2 headerByte3 sType : UInt8)
    (systemBytes : SystemBytes) :
    RawHeader where
  bytes := Element.u16.toBeBytes sessionId ++ [headerByte2, headerByte3, 0, sType] ++
    Element.u32.toBeBytes systemBytes.raw
  length_eq := by
    rw [List.length_append, List.length_append, Element.length_toBeBytes, Element.length_toBeBytes]
    rfl

/-- `data_header_bytes`: the W-bit is the top bit of the byte that carries the stream. -/
def dataHeaderBytes (header : DataHeader) : RawHeader :=
  headerOf header.sessionId.raw (header.stream.raw ||| if header.replyExpected then 0x80 else 0)
    header.function.raw 0 header.systemBytes

/-- `control_header_bytes`: the ten bytes of each control message.  A byte without a meaning for
its kind is zero. -/
def controlHeaderBytes : ControlMessage → RawHeader
  | .selectRequest sessionId systemBytes => headerOf sessionId 0 0 1 systemBytes
  | .selectResponse sessionId status systemBytes => headerOf sessionId 0 status.raw 2 systemBytes
  | .deselectRequest sessionId systemBytes => headerOf sessionId 0 0 3 systemBytes
  | .deselectResponse sessionId status systemBytes => headerOf sessionId 0 status.raw 4 systemBytes
  | .linktestRequest systemBytes => headerOf 0xFFFF 0 0 5 systemBytes
  | .linktestResponse systemBytes => headerOf 0xFFFF 0 0 6 systemBytes
  | .rejectRequest sessionId headerByte2 reason systemBytes =>
    headerOf sessionId headerByte2 reason.raw 7 systemBytes
  | .separateRequest sessionId systemBytes => headerOf sessionId 0 0 9 systemBytes

/-! ## Validating frames -/

/-- `violation`: a violation of this kind, with the header it was found in. -/
def violation (header : RawHeader) (kind : HeaderViolationKind) : HeaderViolation :=
  ⟨header.snapshot, kind⟩

/-- `require_zero_byte_2`: a response has its status in the next byte and nothing here. -/
def requireZeroByte2 (header : RawHeader) (headerByte2 : UInt8) : Except HeaderViolation Unit :=
  if headerByte2 = 0 then .ok () else .error (violation header .invalidControlHeader)

/-- `require_zero_header`: a request has nothing in either of the two bytes. -/
def requireZeroHeader (header : RawHeader) (headerByte2 headerByte3 : UInt8) :
    Except HeaderViolation Unit :=
  if headerByte2 = 0 ∧ headerByte3 =
    0 then .ok () else .error (violation header .invalidControlHeader)

/-- `require_linktest_session`: a Linktest is about the connection and has no session of its own. -/
def requireLinktestSession (header : RawHeader) (sessionId : UInt16) :
    Except HeaderViolation Unit :=
  if sessionId = controlSessionId then .ok () else .error
    (violation header .invalidControlSessionId)

/-- A byte without its W-bit is a stream. -/
theorem stream_seven_bit (byte : UInt8) : byte &&& 0x7F ≤ 127 := by
  rw [UInt8.le_iff_toNat_le, UInt8.toNat_and]
  exact Nat.and_le_right

/-- `validate_data`: any header is a Data header unless its session is the control session. -/
def validateData (header : RawHeader) (text : Secs2.ByteSlice) :
    Except HeaderViolation ValidatedFrame :=
  if h : header.sessionId = controlSessionId then .error (violation header .invalidDataSessionId)
  else
    .ok (.data ⟨⟨⟨header.sessionId, h⟩, ⟨header.byteAt 2 &&& 0x7F, stream_seven_bit _⟩,
      ⟨header.byteAt 3⟩, header.byteAt 2 &&& 0x80 ≠ 0, header.systemBytes⟩, text⟩)

/-- `validate_control`; a session type that is not one of these is `unreachable!` in the source. -/
def validateControl (header : RawHeader) (sType : UInt8) : Except HeaderViolation ControlMessage :=
  do
  let sessionId := header.sessionId
  let headerByte2 := header.byteAt 2
  let headerByte3 := header.byteAt 3
  let systemBytes := header.systemBytes
  if sType = 1 then
    requireZeroHeader header headerByte2 headerByte3
    return .selectRequest sessionId systemBytes
  else if sType = 2 then
    requireZeroByte2 header headerByte2
    return .selectResponse sessionId ⟨headerByte3⟩ systemBytes
  else if sType = 3 then
    requireZeroHeader header headerByte2 headerByte3
    return .deselectRequest sessionId systemBytes
  else if sType = 4 then
    requireZeroByte2 header headerByte2
    return .deselectResponse sessionId ⟨headerByte3⟩ systemBytes
  else if sType = 5 then
    requireLinktestSession header sessionId
    requireZeroHeader header headerByte2 headerByte3
    return .linktestRequest systemBytes
  else if sType = 6 then
    requireLinktestSession header sessionId
    requireZeroHeader header headerByte2 headerByte3
    return .linktestResponse systemBytes
  else if sType = 7 then
    if h : headerByte3 = 0 then throw (violation header .invalidControlHeader)
    else return .rejectRequest sessionId headerByte2 ⟨headerByte3, h⟩ systemBytes
  else if sType = 9 then
    requireZeroHeader header headerByte2 headerByte3
    return .separateRequest sessionId systemBytes
  else throw (violation header (.unknownSessionType sType))

/-- `StrictFrameValidator::validate`: SType, then PType, then the layout of the SType. -/
def validate (raw : RawFrame) : Except HeaderViolation ValidatedFrame :=
  let header := raw.header
  let sType := header.sType
  if sType ∉ ([0, 1, 2, 3, 4, 5, 6, 7, 9] : List UInt8) then
    .error (violation header (.unknownSessionType sType))
  else if header.pType ≠ 0 then
    .error (violation header (.unknownPresentationType header.pType))
  else if sType = 0 then validateData header raw.text
  else if raw.text.bytes ≠ [] then .error (violation header .controlMessageHasText)
  else (validateControl header sType).map .control

/-! ## Reading back a header -/

/-- The bytes of a header in wire order. -/
theorem bytes_headerOf (sessionId : UInt16) (headerByte2 headerByte3 sType : UInt8)
    (systemBytes : SystemBytes) : ∃ s₀ s₁ b₀ b₁ b₂ b₃, Element.u16.toBeBytes sessionId = [s₀, s₁] ∧
      Element.u32.toBeBytes systemBytes.raw = [b₀, b₁, b₂, b₃] ∧
      (headerOf sessionId headerByte2 headerByte3 sType systemBytes).bytes =
        [s₀, s₁, headerByte2, headerByte3, 0, sType, b₀, b₁, b₂, b₃] := by
  have hsession : (Element.u16.toBeBytes sessionId).length = 2 := Element.length_toBeBytes _
  have hsystem : (Element.u32.toBeBytes systemBytes.raw).length = 4 := Element.length_toBeBytes _
  obtain ⟨s₀, s₁, hs⟩ := List.length_eq_two.mp hsession
  have hbytes : (headerOf sessionId headerByte2 headerByte3 sType systemBytes).bytes =
      Element.u16.toBeBytes sessionId ++ [headerByte2, headerByte3, 0, sType] ++
        Element.u32.toBeBytes systemBytes.raw := rfl
  rw [hs] at hbytes
  generalize Element.u32.toBeBytes systemBytes.raw = system at hsystem hbytes
  match system, hsystem with
  | [b₀, b₁, b₂, b₃], _ => exact ⟨s₀, s₁, b₀, b₁, b₂, b₃, hs, rfl, hbytes⟩

section

variable {sessionId : UInt16} {headerByte2 headerByte3 sType : UInt8} {systemBytes : SystemBytes}

/-- **Every field of a header is read as it was written.**  The lemmas below give each field on its
own, for `simp`. -/
theorem fields_of_eq (header : RawHeader)
    (h : header = headerOf sessionId headerByte2 headerByte3 sType systemBytes) :
    header.sessionId = sessionId ∧ header.byteAt 2 = headerByte2 ∧ header.byteAt 3 = headerByte3 ∧
      header.pType = 0 ∧ header.sType = sType ∧ header.systemBytes = systemBytes := by
  obtain ⟨s₀, s₁, b₀, b₁, b₂, b₃, hs, hb, hbytes⟩ :=
    bytes_headerOf sessionId headerByte2 headerByte3 sType systemBytes
  rw [← h] at hbytes
  obtain ⟨bytes, length_eq⟩ := header
  dsimp only at hbytes
  subst hbytes
  have hsession : Element.u16.fromBeBytes [s₀, s₁] = sessionId := by
    rw [← hs, Element.fromBeBytes_toBeBytes]
  have hsystem : Element.u32.fromBeBytes [b₀, b₁, b₂, b₃] = systemBytes.raw := by
    rw [← hb, Element.fromBeBytes_toBeBytes]
  exact ⟨hsession, rfl, rfl, rfl, rfl, congrArg SystemBytes.mk hsystem⟩

@[simp] theorem sessionId_headerOf :
    (headerOf sessionId headerByte2 headerByte3 sType systemBytes).sessionId = sessionId :=
  (fields_of_eq _ rfl).1

@[simp] theorem byteAt_two_headerOf :
    (headerOf sessionId headerByte2 headerByte3 sType systemBytes).byteAt 2 = headerByte2 :=
  (fields_of_eq _ rfl).2.1

@[simp] theorem byteAt_three_headerOf :
    (headerOf sessionId headerByte2 headerByte3 sType systemBytes).byteAt 3 = headerByte3 :=
  (fields_of_eq _ rfl).2.2.1

@[simp] theorem pType_headerOf :
    (headerOf sessionId headerByte2 headerByte3 sType systemBytes).pType = 0 :=
  (fields_of_eq _ rfl).2.2.2.1

@[simp] theorem sType_headerOf :
    (headerOf sessionId headerByte2 headerByte3 sType systemBytes).sType = sType :=
  (fields_of_eq _ rfl).2.2.2.2.1

@[simp] theorem systemBytes_headerOf :
    (headerOf sessionId headerByte2 headerByte3 sType systemBytes).systemBytes = systemBytes :=
  (fields_of_eq _ rfl).2.2.2.2.2

/-- **A header of presentation type zero is written as it was read.** -/
theorem headerOf_fields {header : RawHeader} (h : header.pType = 0) :
    headerOf header.sessionId (header.byteAt 2) (header.byteAt 3) header.sType header.systemBytes =
      header := by
  obtain ⟨bytes, length_eq⟩ := header
  match bytes, length_eq with
  | [s₀, s₁, headerByte2, headerByte3, pType, sType, b₀, b₁, b₂, b₃], _ =>
    obtain rfl : pType = 0 := h
    have hsession : Element.u16.toBeBytes (Element.u16.fromBeBytes [s₀, s₁]) = [s₀, s₁] :=
      Element.toBeBytes_fromBeBytes rfl
    have hsystem : Element.u32.toBeBytes (Element.u32.fromBeBytes [b₀, b₁, b₂, b₃]) =
        [b₀, b₁, b₂, b₃] := Element.toBeBytes_fromBeBytes rfl
    refine (RawHeader.mk.injEq _ _ _ _).mpr ?_
    exact congrArg₂ (fun session system => session ++ [headerByte2, headerByte3, 0,
      sType] ++ system)
      hsession hsystem

end

/-! ## The W-bit -/

set_option maxRecDepth 4000 in
/-- A byte is its stream and its W-bit. -/
theorem stream_or_wait (byte : UInt8) :
    ((byte &&& 0x7F) ||| if decide (byte &&& 0x80 ≠ 0) then 0x80 else 0) = byte := by
  cases byte with
  | ofBitVec bits =>
    cases bits with
    | ofFin value =>
      revert value
      decide

set_option maxRecDepth 8000 in
/-- The stream and the W-bit are read as they were written. -/
theorem wait_of_stream (stream : UInt8) (wait : Bool) (h : stream ≤ 127) :
    (stream ||| if wait then 0x80 else 0) &&& 0x7F = stream ∧
      decide ((stream ||| if wait then 0x80 else 0) &&& 0x80 ≠ 0) = wait := by
  cases stream with
  | ofBitVec bits =>
    cases bits with
    | ofFin value =>
      revert value
      cases wait <;> decide

/-! ## Validating what was encoded -/

/-- **A Data header is validated to the header that was encoded**, with the text untouched. -/
theorem validate_dataHeaderBytes (header : DataHeader) (text : Secs2.ByteSlice) :
    validate ⟨dataHeaderBytes header, text⟩ = .ok (.data ⟨header, text⟩) := by
  obtain ⟨⟨session, unreserved⟩, ⟨stream, sevenBit⟩, ⟨function⟩, replyExpected, systemBytes⟩ :=
    header
  obtain ⟨hstream, hwait⟩ := wait_of_stream stream replyExpected sevenBit
  have hunreserved : session ≠ controlSessionId := unreserved
  unfold validate validateData dataHeaderBytes
  dsimp only
  rw [sType_headerOf, pType_headerOf, if_neg (by decide), if_neg (by decide), if_pos rfl,
    dif_neg (by rwa [sessionId_headerOf])]
  simp only [sessionId_headerOf, byteAt_two_headerOf, byteAt_three_headerOf, systemBytes_headerOf,
    hstream, hwait]

/-- **A control header is validated to the message that was encoded.** -/
theorem validate_controlHeaderBytes (message : ControlMessage) :
    validate ⟨controlHeaderBytes message, noText⟩ = .ok (.control message) := by
  cases message with
  | rejectRequest sessionId headerByte2 reason systemBytes =>
    simp only [controlHeaderBytes, validate, validateControl, sType_headerOf, pType_headerOf,
      sessionId_headerOf, byteAt_two_headerOf, byteAt_three_headerOf, systemBytes_headerOf,
      dif_neg reason.nonzero]
    rfl
  | _ =>
    simp only [controlHeaderBytes, validate, validateControl, sType_headerOf, pType_headerOf,
      sessionId_headerOf, byteAt_two_headerOf, byteAt_three_headerOf, systemBytes_headerOf]
    rfl

/-! ## Encoding what was validated -/

/-- The header that the encoder writes for a validated frame, and its text. -/
def ValidatedFrame.raw : ValidatedFrame → RawFrame
  | .data frame => ⟨dataHeaderBytes frame.header, frame.text⟩
  | .control message => ⟨controlHeaderBytes message, noText⟩

theorem requireZeroByte2_eq_ok {header : RawHeader} {headerByte2 : UInt8} {u : Unit} :
    requireZeroByte2 header headerByte2 = .ok u ↔ headerByte2 = 0 := by
  unfold requireZeroByte2
  split <;> simp_all

theorem requireZeroHeader_eq_ok {header : RawHeader} {headerByte2 headerByte3 : UInt8} {u : Unit} :
    requireZeroHeader header headerByte2 headerByte3 = .ok u ↔ headerByte2 = 0 ∧
      headerByte3 = 0 := by
  unfold requireZeroHeader
  split <;> simp_all

theorem requireLinktestSession_eq_ok {header : RawHeader} {sessionId : UInt16} {u : Unit} :
    requireLinktestSession header sessionId = .ok u ↔ sessionId = controlSessionId := by
  unfold requireLinktestSession
  split <;> simp_all

/-- **A control message that was validated has the header it came from.** -/
theorem header_of_validateControl {header : RawHeader} {message : ControlMessage}
    (hpType : header.pType = 0) (h : validateControl header header.sType = .ok message) :
    controlHeaderBytes message = header := by
  have hback := headerOf_fields hpType
  unfold validateControl at h
  dsimp only at h
  split_ifs at h with h1 h2 h3 h4 h5 h6 h7 hzero h9
  · obtain ⟨_, hfields, h⟩ := bind_eq_ok.mp h
    obtain ⟨h₂, h₃⟩ := requireZeroHeader_eq_ok.mp hfields
    rw [h1, h₂, h₃] at hback
    exact pure_eq_ok.mp h ▸ hback
  · obtain ⟨_, hfields, h⟩ := bind_eq_ok.mp h
    rw [h2, requireZeroByte2_eq_ok.mp hfields] at hback
    exact pure_eq_ok.mp h ▸ hback
  · obtain ⟨_, hfields, h⟩ := bind_eq_ok.mp h
    obtain ⟨h₂, h₃⟩ := requireZeroHeader_eq_ok.mp hfields
    rw [h3, h₂, h₃] at hback
    exact pure_eq_ok.mp h ▸ hback
  · obtain ⟨_, hfields, h⟩ := bind_eq_ok.mp h
    rw [h4, requireZeroByte2_eq_ok.mp hfields] at hback
    exact pure_eq_ok.mp h ▸ hback
  · obtain ⟨_, hsession, h⟩ := bind_eq_ok.mp h
    obtain ⟨_, hfields, h⟩ := bind_eq_ok.mp h
    obtain ⟨h₂, h₃⟩ := requireZeroHeader_eq_ok.mp hfields
    rw [h5, h₂, h₃, requireLinktestSession_eq_ok.mp hsession] at hback
    exact pure_eq_ok.mp h ▸ hback
  · obtain ⟨_, hsession, h⟩ := bind_eq_ok.mp h
    obtain ⟨_, hfields, h⟩ := bind_eq_ok.mp h
    obtain ⟨h₂, h₃⟩ := requireZeroHeader_eq_ok.mp hfields
    rw [h6, h₂, h₃, requireLinktestSession_eq_ok.mp hsession] at hback
    exact pure_eq_ok.mp h ▸ hback
  · rw [h7] at hback
    exact pure_eq_ok.mp h ▸ hback
  · obtain ⟨_, hfields, h⟩ := bind_eq_ok.mp h
    obtain ⟨h₂, h₃⟩ := requireZeroHeader_eq_ok.mp hfields
    rw [h9, h₂, h₃] at hback
    exact pure_eq_ok.mp h ▸ hback

/-- **A Data header that was validated has the header it came from.** -/
theorem header_of_validateData {header : RawHeader} {text : Secs2.ByteSlice}
    {frame : ValidatedFrame}
    (hpType : header.pType = 0) (hsType : header.sType = 0)
    (h : validateData header text = .ok frame) : frame.raw = ⟨header, text⟩ := by
  have hback := headerOf_fields hpType
  unfold validateData at h
  split_ifs at h
  obtain rfl := Except.ok.inj h
  dsimp only [ValidatedFrame.raw, dataHeaderBytes]
  rw [hsType] at hback
  rw [stream_or_wait, hback]

/-- **What the validator accepts is what the encoder writes.** -/
theorem header_of_validate {raw : RawFrame} {frame : ValidatedFrame}
    (h : validate raw = .ok frame) :
    frame.raw = raw := by
  unfold validate at h
  dsimp only at h
  split_ifs at h with hsession hpresentation hdata htext
  · exact header_of_validateData (not_not.mp hpresentation) hdata h
  · obtain ⟨message, hmessage, rfl⟩ : ∃ message,
        validateControl raw.header raw.header.sType = .ok message ∧ .control message = frame := by
      generalize validateControl raw.header raw.header.sType = result at h
      cases result with
      | error _ => cases h
      | ok message => exact ⟨message, rfl, Except.ok.inj h⟩
    obtain ⟨header, text⟩ := raw
    have hheader := header_of_validateControl (not_not.mp hpresentation) hmessage
    obtain ⟨bytes, addressable⟩ := text
    obtain rfl : bytes = [] := not_not.mp htext
    exact congrArg (RawFrame.mk · noText) hheader

/-- **Validation and encoding are inverse to each other.** -/
theorem validate_eq_ok {raw : RawFrame} {frame : ValidatedFrame} :
    validate raw = .ok frame ↔ frame.raw = raw := by
  refine ⟨header_of_validate, ?_⟩
  rintro rfl
  cases frame with
  | data frame => exact validate_dataHeaderBytes frame.header frame.text
  | control message => exact validate_controlHeaderBytes message

end Hsms
end SecsRust
