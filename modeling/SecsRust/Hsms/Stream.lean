import SecsRust.Hsms.Codec

/-!
# A stream of frames

What the codec of one generation makes of everything that the peer sends.  `drain` decodes
until the input lacks something or the framing has failed; `feed` does so each time another
part arrives, with what was left before it in front.

TCP cuts the stream where it likes, and the application must not see the cuts:
`feed_eq_drain` says that where the parts end does not matter.  It rests on one property of
a decode, that bytes which arrive later do not change what it does with the front of the
input, and goes by induction over the parts (`drain_append`).  The loop of `drain` ends
because a decode that does not wait takes at least a length and a header
(`length_lt_of_decode`).

`drain_encodings` is the case in which the peer has sent encodings and nothing else: they
are decoded to the list of their messages.
-/

namespace SecsRust
namespace Hsms

open Secs2

/-- `self.buffer.get(4..14)`: the header at the front of a buffer that holds one. -/
def bufferedHeader (buffer : List UInt8) : Option HeaderSnapshot :=
  if h : lengthPrefixBytes + hsmsHeaderLength ≤ buffer.length then
    some ⟨⟨((buffer.drop lengthPrefixBytes).take hsmsHeaderLength).toArray, by
      rw [List.size_toArray, List.length_take_of_le]
      · rfl
      · rw [List.length_drop]
        exact Nat.le_sub_of_add_le' h⟩⟩
  else none

theorem bufferedHeader_bytes (raw : RawFrame) (rest : List UInt8) :
    bufferedHeader (raw.bytes ++ rest) = some raw.header.snapshot := by
  have hlength : lengthPrefixBytes + hsmsHeaderLength ≤ (raw.bytes ++ rest).length := by
    rw [List.length_append, raw.length_bytes]
    omega
  unfold bufferedHeader
  rw [dif_pos hlength]
  refine congrArg some (congrArg HeaderSnapshot.mk (Vector.toArray_inj.mp ?_))
  refine congrArg List.toArray ?_
  unfold RawFrame.bytes
  rw [List.append_assoc, List.drop_left' (length_declared _), List.append_assoc]
  exact List.take_left' raw.header.length_eq

/-- A step with the header that was buffered for it. -/
abbrev DecodedFrame := Option HeaderSnapshot × HsmsSsDecodeStep

/-- What decoding everything in a buffer comes to. -/
structure Drained where
  frames : List DecodedFrame
  /-- The progress of the frame that is lacking, or the fault that ended the framing. -/
  outcome : Except FramingFault FrameReadProgress
  codec : HsmsSsCodec
  rest : List UInt8

/-- One more frame in front. -/
def Drained.cons (frame : DecodedFrame) (drained : Drained) : Drained :=
  { drained with frames := frame :: drained.frames }

/-- More frames in front. -/
def Drained.append (frames : List DecodedFrame) (drained : Drained) : Drained :=
  { drained with frames := frames ++ drained.frames }

namespace HsmsSsCodec

/-- Decodes until `NeedMore` or a framing fault.  The codec is the same for the whole input, and
what it has consumed is dropped. -/
def drain (codec : HsmsSsCodec) (input : List UInt8) : Drained :=
  match _ : codec.decode input with
  | (.error fault, codec, rest) => ⟨[], .error fault, codec, rest⟩
  | (.ok (.needMore progress), codec, rest) => ⟨[], .ok progress, codec, rest⟩
  | (.ok (.message message), codec, rest) =>
    (drain codec rest).cons (bufferedHeader input, .message message)
  | (.ok (.headerViolation violation), codec, rest) =>
    (drain codec rest).cons (bufferedHeader input, .headerViolation violation)
  | (.ok (.payloadViolation violation source), codec, rest) =>
    (drain codec rest).cons (bufferedHeader input, .payloadViolation violation source)
termination_by input.length
decreasing_by all_goals
  apply length_lt_of_decode
  · assumption
  · trivial

/-- Decodes all that is complete after each chunk has arrived. -/
def feed (codec : HsmsSsCodec) (buffer : List UInt8) : List (List UInt8) → Drained
  | [] => codec.drain buffer
  | chunk :: chunks =>
    let drained := codec.drain (buffer ++ chunk)
    (feed drained.codec drained.rest chunks).append drained.frames

variable {codec : HsmsSsCodec} {input : List UInt8}

theorem drain_error {fault : FramingFault} {after : HsmsSsCodec} {rest : List UInt8}
    (h : codec.decode input = (.error fault, after, rest)) :
    codec.drain input = ⟨[], .error fault, after, rest⟩ := by
  rw [drain]
  split <;> simp_all

theorem drain_of_fault {fault : FramingFault} (h : codec.frameDecoder.terminalFault = some fault)
    (input : List UInt8) : codec.drain input = ⟨[], .error fault, codec, input⟩ :=
  drain_error (decode_of_fault h)

theorem drain_needMore {progress : FrameReadProgress} {after : HsmsSsCodec} {rest : List UInt8}
    (h : codec.decode input = (.ok (.needMore progress), after, rest)) :
    codec.drain input = ⟨[], .ok progress, after, rest⟩ := by
  rw [drain]
  split <;> simp_all

theorem drain_complete {step : HsmsSsDecodeStep} {after : HsmsSsCodec} {rest : List UInt8}
    (h : codec.decode input = (.ok step, after, rest)) (hcomplete : step.IsComplete) :
    codec.drain input = (after.drain rest).cons (bufferedHeader input, step) := by
  rw [drain]
  cases step with
  | needMore progress => exact hcomplete.elim
  | message message => split <;> simp_all
  | headerViolation violation => split <;> simp_all
  | payloadViolation violation source => split <;> simp_all

/-- **A frame at the front is decoded first**, and the rest as if it stood alone.  It is the step
by which the results about streams are proved. -/
theorem drain_frame (hrunning : codec.Running) {raw : RawFrame} (hfits : raw.Fits codec.bound)
    (rest : List UInt8) : codec.drain (raw.bytes ++ rest) =
      (codec.drain rest).cons (some raw.header.snapshot, interpret codec.decoder raw) := by
  rw [drain_complete (decode_frame hrunning hfits rest) (interpret_isComplete _ _),
    bufferedHeader_bytes]

/-- **Input that arrives later is decoded where decoding stopped.** -/
theorem drain_append (codec : HsmsSsCodec) (input more : List UInt8) :
    codec.drain (input ++ more) =
      ((codec.drain input).codec.drain ((codec.drain input).rest ++ more)).append
        (codec.drain input).frames := by
  induction hlength : input.length using Nat.strong_induction_on generalizing input with
  | _ n ih =>
    by_cases hrunning : codec.Running
    · rcases Nat.eq_zero_or_pos (lacking codec.bound input) with hfull | hlacking
      · rcases decode_of_full hrunning hfull with ⟨raw, tail, hfits, rfl⟩ | ⟨fault, -, hdecode⟩
        · have hshort : tail.length < n := by
            rw [← hlength, List.length_append]
            exact Nat.lt_add_of_pos_left (length_bytes_pos raw)
          rw [List.append_assoc, drain_frame hrunning hfits, drain_frame hrunning hfits,
            ih _ hshort tail rfl]
          rfl
        · have hstop := drain_error (hdecode [])
          have hfault : (codec.stopped fault).frameDecoder.terminalFault = some fault := rfl
          rw [List.append_nil] at hstop
          rw [hstop, drain_error (hdecode more), drain_of_fault hfault]
          rfl
      · obtain ⟨progress, hdecode, -⟩ := decode_of_lacking hrunning hlacking
        rw [drain_needMore hdecode]
        rfl
    · obtain ⟨fault, hfault⟩ := Option.ne_none_iff_exists'.mp hrunning
      rw [drain_of_fault hfault input, drain_of_fault hfault (input ++ more)]
      rfl

/-- **However the input is cut, the codec makes the same of it.**  By induction on the chunks;
the buffer is what the chunks before have left. -/
theorem feed_eq_drain (codec : HsmsSsCodec) (buffer : List UInt8) (chunks : List (List UInt8)) :
    codec.feed buffer chunks = codec.drain (buffer ++ chunks.flatten) := by
  induction chunks generalizing codec buffer with
  | nil => rw [List.flatten_nil, List.append_nil]; rfl
  | cons chunk chunks ih =>
    rw [List.flatten_cons, ← List.append_assoc, drain_append, ← ih]
    rfl

/-- **A list of encodings is decoded to the list of their messages.** -/
theorem drain_encodings (hrunning : codec.Running) {raws : List RawFrame}
    (hfits : ∀ raw ∈ raws, raw.Fits codec.bound) :
    codec.drain (raws.map RawFrame.bytes).flatten =
      (codec.drain []).append (raws.map fun raw =>
        (some raw.header.snapshot, interpret codec.decoder raw)) := by
  induction raws with
  | nil => rfl
  | cons raw raws ih =>
    obtain ⟨hraw, hraws⟩ := List.forall_mem_cons.mp hfits
    rw [List.map_cons, List.flatten_cons, drain_frame hrunning hraw, ih hraws]
    rfl

end HsmsSsCodec

end Hsms
end SecsRust
