import SecsRust.Hsms.Config
import SecsRust.Hsms.Wire.Frame

/-!
# Framing

`hsms/wire/framer.rs`: the incremental length decoder of one generation, and the encoder
that puts a checked length in front of a header.

What the decoder does with a buffer is fixed by the shortest front of it that holds a whole
frame or an illegal length.  `decidingFront` is the length of that front and `lacking` what
the buffer is short of it.  The decoder reads nothing behind the front, and takes exactly
the front when it is a frame (`decode_eq_frame`); so bytes that arrive later change
nothing.  A buffer that lacks something is left as it is, and the number of bytes that the
decoder asks for is exactly what it lacks (`FrameReadProgress.needed`), so a reader that
asks for no more never holds a byte of the next frame.

An illegal length cannot be skipped, since nothing tells where the next frame begins.  So
the first one is final, and the decoder repeats its fault (`decode_of_fault`).

The encoder plans a Data frame from the length of its text, before the text is written, and
the plan is what the checked length is computed from.
-/

namespace SecsRust
namespace Hsms

open Secs2

/-- `LENGTH_PREFIX_BYTES`: the length in front of every frame, which does not count itself. -/
def lengthPrefixBytes : ℕ := 4

/-- `FramingFault`: an illegal Message Length, fatal to the generation. -/
inductive FramingFault where
  | messageLengthBelowHeader (declaredLength : UInt32) (headerLength : ℕ)
  | messageLengthAboveLimit (declaredLength : UInt32) (maximumLength : ℕ)
  deriving DecidableEq

/-- `FrameEncodeError`: the length of a Data message passes the end of a `usize`, with or without
its prefix, or the bound. -/
inductive FrameEncodeError where
  | messageLengthOverflow (textLength : ℕ)
  | encodedFrameLengthOverflow (messageLength : ℕ)
  | messageLengthAboveLimit (messageLength maximumLength : ℕ)
  deriving DecidableEq

/-- `FrameReadProgress`: how much of the current frame is in the buffer, before and after its
length is known. -/
inductive FrameReadProgress where
  | awaitingLength (bytesSeen : ℕ)
  | partialBody (targetLength bytesSeen : ℕ)
  deriving DecidableEq

/-- `FrameDecodeStep`: a complete frame, or that the buffer lacks something. -/
inductive FrameDecodeStep where
  | frame (raw : RawFrame)
  | needMore (progress : FrameReadProgress)

/-- The Message Length in the first four bytes. -/
def declaredLength (input : List UInt8) : UInt32 :=
  Element.u32.fromBeBytes (input.take lengthPrefixBytes)

/-- Splits the body of a frame after its header. -/
def RawFrame.ofBody (body : List UInt8) (hheader : hsmsHeaderLength ≤ body.length)
    (haddressable : body.length ≤ usizeMax) : RawFrame where
  header := ⟨body.take hsmsHeaderLength, List.length_take_of_le hheader⟩
  text := ⟨body.drop hsmsHeaderLength, by rw [List.length_drop]; omega⟩

theorem length_body {input : List UInt8} {declared : UInt32}
    (h : declared.toNat ≤ input.length - lengthPrefixBytes) :
    ((input.drop lengthPrefixBytes).take declared.toNat).length = declared.toNat := by
  rw [List.length_take, List.length_drop]
  exact Nat.min_eq_left h

/-! ## Decoding -/

/-- `HsmsFrameDecoder`, with the bound that `EndpointLimits` guarantees. -/
structure HsmsFrameDecoder where
  maxMessageLength : ℕ
  message_le : maxMessageLength ≤ u32Max
  terminalFault : Option FramingFault

namespace HsmsFrameDecoder

/-- `HsmsFrameDecoder::new`: a decoder that has not failed, with the bound of these limits. -/
def new (limits : EndpointLimits) : HsmsFrameDecoder :=
  ⟨limits.maxMessageLength, limits.message_le, none⟩

/-- `terminate`: remembers the first framing fault, which every later call repeats. -/
def terminate (decoder : HsmsFrameDecoder) (fault : FramingFault) : HsmsFrameDecoder :=
  { decoder with terminalFault := some fault }

/-- `HsmsFrameDecoder::decode`: the result, the decoder and what is left of the input. -/
def decode (decoder : HsmsFrameDecoder) (input : List UInt8) :
    Except FramingFault FrameDecodeStep × HsmsFrameDecoder × List UInt8 :=
  match decoder.terminalFault with
  | some fault => (.error fault, decoder, input)
  | none =>
    if input.length < lengthPrefixBytes then
      (.ok (.needMore (.awaitingLength input.length)), decoder, input)
    else
      let declared := declaredLength input
      if hheader : declared.toNat < hsmsHeaderLength then
        let fault := .messageLengthBelowHeader declared hsmsHeaderLength
        (.error fault, decoder.terminate fault, input)
      else if decoder.maxMessageLength < declared.toNat then
        let fault := .messageLengthAboveLimit declared decoder.maxMessageLength
        (.error fault, decoder.terminate fault, input)
      else
        let availableBody := input.length - lengthPrefixBytes
        if havailable : availableBody < declared.toNat then
          (.ok (.needMore (.partialBody declared.toNat availableBody)), decoder, input)
        else
          let body := (input.drop lengthPrefixBytes).take declared.toNat
          have hlength : body.length = declared.toNat := length_body (Nat.not_lt.mp havailable)
          (.ok (.frame (.ofBody body (hlength ▸ Nat.not_lt.mp hheader)
            (hlength ▸ declared.toNat_lt.le.trans (by decide)))), decoder,
            input.drop (lengthPrefixBytes + declared.toNat))

end HsmsFrameDecoder

/-! ## Encoding -/

/-- `DataFramePlan`: the two lengths of a frame that is still to be written. -/
structure DataFramePlan where
  messageLength : UInt32
  encodedLength : ℕ
  deriving DecidableEq

/-- `HsmsWireEncoder`, with the bound that `EndpointLimits` guarantees. -/
structure HsmsWireEncoder where
  maxMessageLength : ℕ
  message_le : maxMessageLength ≤ u32Max

namespace HsmsWireEncoder

/-- `HsmsWireEncoder::new`: an encoder with the bound of these limits. -/
def new (limits : EndpointLimits) : HsmsWireEncoder := ⟨limits.maxMessageLength, limits.message_le⟩

/-- `plan_data`: the lengths of a Data frame with a text of this length.  The bound is compared
before the prefix is added. -/
def planData (encoder : HsmsWireEncoder) (textLength : ℕ) (target : Target := .sixtyFour) :
    Except FrameEncodeError DataFramePlan :=
  match target.checkedAdd hsmsHeaderLength textLength with
  | none => .error (.messageLengthOverflow textLength)
  | some messageLength =>
    if messageLength > encoder.maxMessageLength then
      .error (.messageLengthAboveLimit messageLength encoder.maxMessageLength)
    else
      match target.checkedAdd lengthPrefixBytes messageLength with
      | none => .error (.encodedFrameLengthOverflow messageLength)
      | some encodedLength => .ok ⟨UInt32.ofNat messageLength, encodedLength⟩

/-- `encode_control`: the ten bytes of the header behind their length. -/
def encodeControl (_ : HsmsWireEncoder) (message : ControlMessage) : List UInt8 :=
  Element.u32.toBeBytes (UInt32.ofNat hsmsHeaderLength) ++ (controlHeaderBytes message).bytes

end HsmsWireEncoder

/-- `write_prefix_and_header`: appends the planned length and the header; the text follows. -/
def DataFramePlan.writePrefixAndHeader (plan : DataFramePlan) (output : List UInt8)
    (header : DataHeader) : List UInt8 :=
  output ++ Element.u32.toBeBytes plan.messageLength ++ (dataHeaderBytes header).bytes

/-! ## What the decoder waits for -/

/-- The front of the input that decides: the length alone when it is illegal, or the whole frame. -/
def decidingFront (maxMessageLength : ℕ) (input : List UInt8) : ℕ :=
  let declared := (declaredLength input).toNat
  if declared < hsmsHeaderLength ∨ maxMessageLength < declared then lengthPrefixBytes
  else lengthPrefixBytes + declared

/-- How many bytes the input lacks. -/
def lacking (maxMessageLength : ℕ) (input : List UInt8) : ℕ :=
  if input.length < lengthPrefixBytes then lengthPrefixBytes - input.length
  else decidingFront maxMessageLength input - input.length

theorem declaredLength_append {input : List UInt8} (h : lengthPrefixBytes ≤ input.length)
    (more : List UInt8) : declaredLength (input ++ more) = declaredLength input := by
  unfold declaredLength
  rw [List.take_append_of_le_length h]

theorem decidingFront_append {maxMessageLength : ℕ} {input : List UInt8}
    (h : lengthPrefixBytes ≤ input.length) (more : List UInt8) :
    decidingFront maxMessageLength (input ++ more) = decidingFront maxMessageLength input := by
  unfold decidingFront
  rw [declaredLength_append h]

theorem lengthPrefixBytes_le_decidingFront {maxMessageLength : ℕ} {input : List UInt8} :
    lengthPrefixBytes ≤ decidingFront maxMessageLength input := by
  unfold decidingFront
  dsimp only
  split_ifs <;> omega

theorem lacking_eq_zero {maxMessageLength : ℕ} {input : List UInt8} :
    lacking maxMessageLength input = 0 ↔
      lengthPrefixBytes ≤ input.length ∧ decidingFront maxMessageLength input ≤ input.length := by
  unfold lacking
  split_ifs <;> omega

/-- The input has not passed the front that decides. -/
def NotPast (maxMessageLength : ℕ) (input : List UInt8) : Prop :=
  lengthPrefixBytes ≤ input.length → input.length ≤ decidingFront maxMessageLength input

theorem notPast_nil (maxMessageLength : ℕ) : NotPast maxMessageLength [] :=
  fun h => absurd h (by decide)

/-- **What was lacking does not take the input past its front.** -/
theorem NotPast.append {maxMessageLength : ℕ} {input more : List UInt8}
    (h : NotPast maxMessageLength input) (hmore : more.length ≤ lacking maxMessageLength input) :
    NotPast maxMessageLength (input ++ more) := by
  intro _
  rw [List.length_append]
  by_cases hshort : input.length < lengthPrefixBytes
  · have hfront : lengthPrefixBytes ≤ decidingFront maxMessageLength (input ++ more) :=
      lengthPrefixBytes_le_decidingFront
    unfold lacking at hmore
    rw [if_pos hshort] at hmore
    omega
  · rw [decidingFront_append (Nat.not_lt.mp hshort)]
    have hinput := h (Nat.not_lt.mp hshort)
    unfold lacking at hmore
    rw [if_neg hshort] at hmore
    omega

/-- How many bytes the reader asks for next: exactly what is lacking. -/
def FrameReadProgress.needed : FrameReadProgress → ℕ
  | awaitingLength bytesSeen => lengthPrefixBytes - bytesSeen
  | partialBody targetLength bytesSeen => targetLength - bytesSeen

/-- The bytes of a frame on the wire: its length, its header and its text. -/
def RawFrame.bytes (raw : RawFrame) : List UInt8 :=
  Element.u32.toBeBytes (UInt32.ofNat (hsmsHeaderLength + raw.text.bytes.length)) ++
    (raw.header.bytes ++ raw.text.bytes)

/-- The frame fits a Message Length bound. -/
def RawFrame.Fits (maxMessageLength : ℕ) (raw : RawFrame) : Prop :=
  hsmsHeaderLength + raw.text.bytes.length ≤ maxMessageLength

theorem length_declared (declared : UInt32) :
    (Element.u32.toBeBytes declared).length = lengthPrefixBytes := Element.length_toBeBytes declared

theorem RawFrame.length_bytes (raw : RawFrame) :
    raw.bytes.length = lengthPrefixBytes + (hsmsHeaderLength + raw.text.bytes.length) := by
  rw [RawFrame.bytes, List.length_append, List.length_append, Element.length_toBeBytes,
    raw.header.length_eq]
  rfl

section

variable {raw : RawFrame} {maxMessageLength : ℕ}

theorem toNat_messageLength {n : ℕ} (h : n ≤ u32Max) : (UInt32.ofNat n).toNat = n :=
  UInt32.toNat_ofNat_of_lt' (Nat.lt_of_le_of_lt h (by decide))

theorem declaredLength_bytes (rest : List UInt8) :
    declaredLength (raw.bytes ++ rest) =
      UInt32.ofNat (hsmsHeaderLength + raw.text.bytes.length) := by
  unfold declaredLength RawFrame.bytes
  rw [List.append_assoc, List.take_left' (length_declared _), Element.fromBeBytes_toBeBytes]

theorem RawFrame.body_bytes (raw : RawFrame) (rest : List UInt8) :
    ((raw.bytes ++ rest).drop lengthPrefixBytes).take (hsmsHeaderLength + raw.text.bytes.length) =
      raw.header.bytes ++ raw.text.bytes := by
  have hbody : (raw.header.bytes ++ raw.text.bytes).length =
      hsmsHeaderLength + raw.text.bytes.length := by
    rw [List.length_append, raw.header.length_eq]
    rfl
  unfold RawFrame.bytes
  rw [List.append_assoc, List.drop_left' (length_declared _), List.take_left' hbody]

theorem ofBody_bytes {body : List UInt8} {hheader : hsmsHeaderLength ≤ body.length}
    {haddressable : body.length ≤ usizeMax} (h : body = raw.header.bytes ++ raw.text.bytes) :
    RawFrame.ofBody body hheader haddressable = raw := by
  subst h
  obtain ⟨⟨header, length_eq⟩, ⟨text, _⟩⟩ := raw
  unfold RawFrame.ofBody
  simp only [List.take_left' length_eq, List.drop_left' length_eq, hsmsHeaderLength]

theorem header_append_text {body : List UInt8} (hheader : hsmsHeaderLength ≤ body.length)
    (haddressable : body.length ≤ usizeMax) :
    (RawFrame.ofBody body hheader haddressable).header.bytes ++
      (RawFrame.ofBody body hheader haddressable).text.bytes = body :=
  List.take_append_drop _ _

end

/-! ## What the decoder does -/

namespace HsmsFrameDecoder

variable {decoder : HsmsFrameDecoder} {input : List UInt8}

/-- **A decoder that has stopped repeats its fault.** -/
theorem decode_of_fault {fault : FramingFault} (h : decoder.terminalFault = some fault) :
    decoder.decode input = (.error fault, decoder, input) := by
  unfold decode
  rw [h]

/-- **Input that lacks something is left as it is**, and what it lacks is reported. -/
theorem decode_of_lacking (hopen : decoder.terminalFault = none)
    (h : 0 < lacking decoder.maxMessageLength input) :
    ∃ progress, decoder.decode input = (.ok (.needMore progress), decoder, input) ∧
      progress.needed = lacking decoder.maxMessageLength input := by
  unfold lacking at h ⊢
  unfold decode
  rw [hopen]
  dsimp only
  by_cases hshort : input.length < lengthPrefixBytes
  · rw [if_pos hshort, if_pos hshort]
    exact ⟨_, rfl, rfl⟩
  · rw [if_neg hshort] at h
    rw [if_neg hshort, if_neg hshort]
    unfold decidingFront at h ⊢
    dsimp only at h ⊢
    by_cases hillegal : (declaredLength input).toNat < hsmsHeaderLength ∨
        decoder.maxMessageLength < (declaredLength input).toNat
    · rw [if_pos hillegal] at h
      omega
    · rw [if_neg hillegal] at h ⊢
      obtain ⟨hheader, hmax⟩ := not_or.mp hillegal
      rw [dif_neg hheader, if_neg hmax, dif_pos (by omega)]
      refine ⟨_, rfl, ?_⟩
      dsimp only [FrameReadProgress.needed]
      omega

/-- **The decoder hands out a frame exactly when the input starts with its bytes**, and takes
nothing else. -/
theorem decode_eq_frame (hopen : decoder.terminalFault = none) {raw : RawFrame}
    {after : HsmsFrameDecoder} {rest : List UInt8} :
    decoder.decode input = (.ok (.frame raw), after, rest) ↔
      raw.Fits decoder.maxMessageLength ∧ after = decoder ∧ input = raw.bytes ++ rest := by
  constructor
  · intro h
    unfold decode at h
    rw [hopen] at h
    dsimp only at h
    split_ifs at h with hshort hheader hlimit havailable
    · cases h
    · cases h
    · cases h
    · cases h
    · obtain ⟨hframe, hrest⟩ := Prod.mk.inj h
      obtain ⟨hafter, hrest⟩ := Prod.mk.inj hrest
      obtain hraw := FrameDecodeStep.frame.inj (Except.ok.inj hframe)
      have hbody : raw.header.bytes ++ raw.text.bytes =
          (input.drop lengthPrefixBytes).take (declaredLength input).toNat := by
        rw [← hraw]
        exact header_append_text _ _
      have htext : hsmsHeaderLength + raw.text.bytes.length = (declaredLength input).toNat := by
        rw [← length_body (Nat.not_lt.mp havailable), ← hbody, List.length_append,
          raw.header.length_eq]
        rfl
      have hprefix : Element.u32.toBeBytes (declaredLength input) = input.take lengthPrefixBytes :=
        Element.toBeBytes_fromBeBytes (List.length_take_of_le (Nat.not_lt.mp hshort))
      refine ⟨htext.le.trans (Nat.not_lt.mp hlimit), hafter.symm, ?_⟩
      rw [RawFrame.bytes, htext, UInt32.ofNat_toNat, hprefix, hbody, ← hrest, ← List.drop_drop,
        List.append_assoc, List.take_append_drop, List.take_append_drop]
  · rintro ⟨hfits, rfl, rfl⟩
    have hvalue : (declaredLength (raw.bytes ++ rest)).toNat =
        hsmsHeaderLength + raw.text.bytes.length := by
      rw [declaredLength_bytes, toNat_messageLength (hfits.trans after.message_le)]
    have hlength : (raw.bytes ++ rest).length =
        lengthPrefixBytes + (hsmsHeaderLength + raw.text.bytes.length) + rest.length := by
      rw [List.length_append, raw.length_bytes]
    have hbody := raw.body_bytes rest
    rw [← hvalue] at hbody
    unfold decode
    rw [hopen]
    dsimp only
    rw [if_neg (by omega), dif_neg (by omega), if_neg (by unfold RawFrame.Fits at hfits; omega),
      dif_neg (by omega)]
    refine congrArg₂ Prod.mk ?_ (congrArg (Prod.mk _) ?_)
    · exact congrArg (fun raw => Except.ok (FrameDecodeStep.frame raw)) (ofBody_bytes hbody)
    · rw [hvalue, ← raw.length_bytes, List.drop_left]

/-- **Input that lacks nothing is a frame with a rest, or an illegal length**, whatever follows. -/
theorem decode_of_full (hopen : decoder.terminalFault = none)
    (h : lacking decoder.maxMessageLength input = 0) :
    (∃ raw rest, decoder.decode input = (.ok (.frame raw), decoder, rest)) ∨
      ∃ fault, decidingFront decoder.maxMessageLength input = lengthPrefixBytes ∧
        ∀ more, decoder.decode (input ++ more) =
          (.error fault, decoder.terminate fault, input ++ more) := by
  obtain ⟨hlength, hfront⟩ := lacking_eq_zero.mp h
  unfold decidingFront at hfront ⊢
  dsimp only at hfront ⊢
  have hshort : ∀ more, ¬ (input ++ more).length < lengthPrefixBytes := by
    intro more
    rw [List.length_append]
    omega
  by_cases hheader : (declaredLength input).toNat < hsmsHeaderLength
  · refine .inr ⟨.messageLengthBelowHeader (declaredLength input) hsmsHeaderLength,
      if_pos (.inl hheader), fun more => ?_⟩
    unfold decode
    rw [hopen]
    dsimp only
    have hmore := declaredLength_append hlength more
    rw [if_neg (hshort more), dif_pos (hmore ▸ hheader), hmore]
  · by_cases hmax : decoder.maxMessageLength < (declaredLength input).toNat
    · refine .inr ⟨.messageLengthAboveLimit (declaredLength input) decoder.maxMessageLength,
        if_pos (.inr hmax), fun more => ?_⟩
      unfold decode
      rw [hopen]
      dsimp only
      have hmore := declaredLength_append hlength more
      rw [if_neg (hshort more), dif_neg (hmore ▸ hheader), if_pos (hmore ▸ hmax), hmore]
    · rw [if_neg (not_or.mpr ⟨hheader, hmax⟩)] at hfront
      refine .inl ?_
      unfold decode
      rw [hopen]
      dsimp only
      rw [if_neg (Nat.not_lt.mpr hlength), dif_neg hheader, if_neg hmax, dif_neg (by omega)]
      exact ⟨_, _, rfl⟩

/-- The front of an input that starts with a frame is that frame. -/
theorem decidingFront_bytes {maxMessageLength : ℕ} (hmax : maxMessageLength ≤ u32Max)
    {raw : RawFrame}
    (hfits : raw.Fits maxMessageLength) (rest : List UInt8) :
    decidingFront maxMessageLength (raw.bytes ++ rest) = raw.bytes.length := by
  have hvalue : (declaredLength (raw.bytes ++ rest)).toNat =
      hsmsHeaderLength + raw.text.bytes.length := by
    rw [declaredLength_bytes, toNat_messageLength (hfits.trans hmax)]
  unfold decidingFront
  dsimp only
  rw [hvalue, raw.length_bytes, if_neg]
  exact not_or.mpr ⟨by omega, Nat.not_lt.mpr hfits⟩

end HsmsFrameDecoder

end Hsms
end SecsRust
