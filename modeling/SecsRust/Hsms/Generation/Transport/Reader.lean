import SecsRust.Hsms.Model
import SecsRust.Hsms.Stream

/-!
# The frame reader

`FrameReader` of `hsms/generation/transport/io.rs`: reads one frame at a time from the byte
stream of a generation, under cancellation, T8 and failures of the transport.

An asynchronous call is given the events that resolve its waits, in order; a call that runs
out of events is still waiting.  The transport may deliver each read in any part, so the
events decide how a frame is cut up.  The application must not see the cuts.

## What a call comes to

The bytes that a reader has still to deal with are those in its buffer and those that the
peer has yet to send (`FrameReader.pending`).  A read moves bytes from the one to the other,
and `pending` does not change.  So what a call returns is a function of `pending` alone,
apart from interruptions (`Comes`, `next_comes`): the frame at the front, the fault of an
illegal length, or the end of the stream.  By induction over the calls, a run returns what
draining the whole stream at once returns, up to the point where the surroundings cut it
short (`readFrames_ran`, `readFrames_drain`).

## What is not read

The reader asks for no byte behind the frame it is reading (`request_le`), which is why its
buffer is empty at every frame boundary (`readFrames_boundary`) and nothing has to be
carried over. `frames_survive_chunking` collects this with the rules of the codec:
incomplete input needs more, an illegal length is a fault, and what has been encoded is
decoded again.
-/

namespace SecsRust
namespace Hsms

open Secs2

/-- `ReadFrame`: one frame, as it was decoded, with the time of its last byte. -/
structure ReadFrame where
  header : HeaderSnapshot
  decoded : HsmsSsDecodeStep
  occurredAt : MonoTime

/-- `ReadFailure`: why no further frame will come. -/
inductive ReadFailure where
  | endOfStream (progress : FrameReadProgress)
  | framing (fault : FramingFault)
  | transport (fault : TransportFault)
  | intercharacterTimeout
  | deadlineOverflow
  deriving DecidableEq

/-- The failure comes from outside of the byte stream. -/
def ReadFailure.IsExternal : ReadFailure → Prop
  | endOfStream _ | framing _ => False
  | transport _ | intercharacterTimeout | deadlineOverflow => True

/-- What resolves one `select!` of the Reader.  A read delivers between one byte and all that was
requested, or nothing at the end of the stream. -/
inductive ReadEvent where
  | cancelled
  | deadlineElapsed
  | read (want : ℕ) (now : MonoTime)
  | failed (kind : TransportFaultKind)

/-- The event is a read, at a time from which T8 can be counted. -/
def ReadEvent.Delivers (t8 : Duration) : ReadEvent → Prop
  | read _ now => now.checkedAdd t8 ≠ none
  | _ => False

/-- The length of `scratch`, which bounds a single read. -/
def scratchLength : ℕ := 8192

/-- `needed.min(scratch.len())`: never more than the current frame lacks. -/
def readAmount (progress : FrameReadProgress) : ℕ := min progress.needed scratchLength

/-- `FrameReader`; `reader` is what the peer sends before it closes its side. -/
structure FrameReader where
  reader : List UInt8
  codec : HsmsSsCodec
  buffer : List UInt8
  lastProgress : Option MonoTime

namespace FrameReader

/-- `FrameReader::new`: nothing is buffered, and no frame has begun. -/
def new (reader : List UInt8) (limits : EndpointLimits) (decoder : DecodeLimits) : FrameReader where
  reader := reader
  codec := .new limits decoder
  buffer := []
  lastProgress := none

/-- `self.reader.read(&mut scratch[..amount])`: the transport delivers as much as it likes, but
at least a byte where there is one. -/
def read (self : FrameReader) (amount want : ℕ) : List UInt8 :=
  self.reader.take (min (max 1 want) amount)

/-- The T8 deadline: `None` between frames, `DeadlineOverflow` when the clock cannot hold it. -/
def deadline (self : FrameReader) (t8 : Duration) : Except ReadFailure (Option MonoTime) :=
  match self.lastProgress with
  | none => .ok none
  | some last =>
    match last.checkedAdd t8 with
    | none => .error .deadlineOverflow
    | some deadline => .ok (some deadline)

/-- What one call of `next` has come to: the result, unless it still waits; the reader; the time;
and the events that were not used. -/
structure Polled where
  result : Option (Except ReadFailure ReadFrame)
  reader : FrameReader
  clock : MonoTime
  events : List ReadEvent

/-- The header that was taken from the buffer.  The source unwraps it with `expect`: the buffer held
a complete frame. -/
def expectHeader (header : Option HeaderSnapshot) : HeaderSnapshot :=
  header.getD ⟨.replicate 10 0⟩

/-- `FrameReader::next`: decodes what is buffered, and reads only while that lacks something. -/
def next (t8 : Duration) (clock : MonoTime) (self : FrameReader) (events : List ReadEvent) :
    Polled :=
  let header := bufferedHeader self.buffer
  match self.codec.decode self.buffer with
  | (.error fault, codec, buffer) =>
    ⟨some (.error (.framing fault)), { self with codec := codec, buffer := buffer }, clock, events⟩
  | (.ok (.needMore progress), codec, buffer) =>
    let self := { self with codec := codec, buffer := buffer }
    match self.deadline t8 with
    | .error failure => ⟨some (.error failure), self, clock, events⟩
    | .ok deadline =>
      match events with
      | [] => ⟨none, self, clock, []⟩
      | .cancelled :: events => ⟨some (.error (.transport ⟨.cancelled⟩)), self, clock, events⟩
      | .deadlineElapsed :: events =>
        -- without a deadline this branch of `select!` stays pending
        if deadline.isSome then ⟨some (.error .intercharacterTimeout), self, clock, events⟩
        else next t8 clock self events
      | .failed kind :: events => ⟨some (.error (.transport ⟨kind⟩)), self, clock, events⟩
      | .read want now :: events =>
        let chunk := self.read (readAmount progress) want
        if chunk.isEmpty then ⟨some (.error (.endOfStream progress)), self, now, events⟩
        else
          next t8 now { self with
            reader := self.reader.drop chunk.length
            buffer := self.buffer ++ chunk
            lastProgress := some now } events
  | (.ok decoded, codec, buffer) =>
    ⟨some (.ok ⟨expectHeader header, decoded, clock⟩),
      { self with codec := codec, buffer := buffer, lastProgress := none }, clock, events⟩
termination_by structural events

/-- What a run of calls has come to. -/
structure ReadRun where
  frames : List ReadFrame
  failure : Option ReadFailure
  reader : FrameReader

/-- So many calls of `next`, up to the first failure. -/
def readFrames (t8 : Duration) : ℕ → MonoTime → FrameReader → List ReadEvent → ReadRun
  | 0, _, self, _ => ⟨[], none, self⟩
  | calls + 1, clock, self, events =>
    let polled := next t8 clock self events
    match polled.result with
    | none => ⟨[], none, polled.reader⟩
    | some (.error failure) => ⟨[], some failure, polled.reader⟩
    | some (.ok frame) =>
      let run := readFrames t8 calls polled.clock polled.reader polled.events
      { run with frames := frame :: run.frames }

/-! ## Single calls -/

/-- Everything that the calls to come are given. -/
def pending (self : FrameReader) : List UInt8 := self.buffer ++ self.reader

/-- The framing has not failed, and the buffer holds at most the current frame.  This is what
every call finds and leaves, as long as it does not fail. -/
structure Sound (reader : FrameReader) : Prop where
  running : reader.codec.Running
  notPast : NotPast reader.codec.bound reader.buffer

theorem sound_new (reader : List UInt8) (limits : EndpointLimits) (decoder : DecodeLimits) :
    (new reader limits decoder).Sound where
  running := HsmsSsCodec.running_new limits decoder
  notPast := notPast_nil _

/-- The other reader goes on where this one is. -/
structure Kept (reader other : FrameReader) : Prop where
  sound : other.Sound
  codec_eq : other.codec = reader.codec
  pending_eq : other.pending = reader.pending
  lacks : 0 < lacking reader.codec.bound other.buffer

/-- The frame is what stood at the front, and it is gone. -/
structure Took (reader other : FrameReader) (raw : RawFrame) : Prop where
  fits : raw.Fits reader.codec.bound
  codec_eq : other.codec = reader.codec
  buffer_eq : other.buffer = []
  pending_eq : reader.pending = raw.bytes ++ other.reader

/-- What a call comes to, in terms of the bytes alone.  The bytes are those that are buffered and
those that the peer will still send. -/
inductive Comes (self : FrameReader) : Option (Except ReadFailure ReadFrame) → FrameReader →
    Prop where
  | waiting {other : FrameReader} (h : Kept self other) : Comes self none other
  | interrupted {other : FrameReader} {failure : ReadFailure} (hfailure : failure.IsExternal)
      (h : Kept self other) : Comes self (some (.error failure)) other
  | frame {other : FrameReader} {raw : RawFrame} {occurredAt : MonoTime} (h : Took self other raw) :
      Comes self (some (.ok ⟨raw.header.snapshot, HsmsSsCodec.interpret self.codec.decoder raw,
        occurredAt⟩)) other
  | framing {other : FrameReader} {fault : FramingFault}
      (hcodec : other.codec = self.codec.stopped fault)
      (h : self.codec.decode self.pending = (.error fault, self.codec.stopped fault,
        self.pending)) :
      Comes self (some (.error (.framing fault))) other
  | ended {other : FrameReader} {progress : FrameReadProgress} (hsound : other.Sound)
      (hcodec : other.codec = self.codec)
      (h : self.codec.decode self.pending = (.ok (.needMore progress), self.codec, self.pending)) :
      Comes self (some (.error (.endOfStream progress))) other

variable {self : FrameReader} {t8 : Duration} {clock : MonoTime} {events : List ReadEvent}

/-- A buffer that lacks nothing holds the current frame and no more, or an illegal length. -/
theorem Sound.cases_of_full (h : self.Sound) (hfull : lacking self.codec.bound self.buffer = 0) :
    (∃ raw, RawFrame.Fits self.codec.bound raw ∧ self.buffer = raw.bytes) ∨
      ∃ fault, ∀ more, self.codec.decode (self.buffer ++ more) =
        (.error fault, self.codec.stopped fault, self.buffer ++ more) := by
  rcases HsmsSsCodec.decode_of_full h.running hfull with
    ⟨raw, rest, hfits, hbuffer⟩ | ⟨fault, -, hdecode⟩
  · have hfront := h.notPast (lacking_eq_zero.mp hfull).1
    rw [hbuffer, HsmsFrameDecoder.decidingFront_bytes self.codec.bound_le hfits,
      List.length_append] at hfront
    have hrest : rest = [] := List.length_eq_zero_iff.mp (by omega)
    rw [hrest, List.append_nil] at hbuffer
    exact .inl ⟨raw, hfits, hbuffer⟩
  · exact .inr ⟨fault, hdecode⟩

/-- A call that finds a whole frame in the buffer returns it. -/
theorem next_of_frame (h : self.Sound) {raw : RawFrame} (hfits : raw.Fits self.codec.bound)
    (hbuffer : self.buffer = raw.bytes) : next t8 clock self events =
      ⟨some (.ok ⟨raw.header.snapshot, HsmsSsCodec.interpret self.codec.decoder raw, clock⟩),
        { self with buffer := [], lastProgress := none }, clock, events⟩ := by
  have hdecode := HsmsSsCodec.decode_frame h.running hfits []
  have hheader := bufferedHeader_bytes raw []
  have hcomplete := HsmsSsCodec.interpret_isComplete self.codec.decoder raw
  rw [List.append_nil, ← hbuffer] at hdecode hheader
  unfold next
  rw [hdecode, hheader]
  generalize HsmsSsCodec.interpret self.codec.decoder raw = step at hcomplete
  cases step with
  | needMore progress => exact hcomplete.elim
  | message message => rfl
  | headerViolation violation => rfl
  | payloadViolation violation source => rfl

/-- A call that finds an illegal length in the buffer fails. -/
theorem next_of_fault {fault : FramingFault}
    (h : self.codec.decode self.buffer = (.error fault, self.codec.stopped fault, self.buffer)) :
    next t8 clock self events =
      ⟨some (.error (.framing fault)), { self with codec := self.codec.stopped fault }, clock,
        events⟩ := by
  unfold next
  rw [h]

/-- A chunk is never longer than what was requested. -/
theorem length_read_le (self : FrameReader) (amount want : ℕ) :
    (self.read amount want).length ≤ amount :=
  (List.length_take_le _ _).trans (Nat.min_le_right _ _)

/-- A chunk and what the peer sends after it. -/
theorem read_append_drop (self : FrameReader) (amount want : ℕ) :
    self.read amount want ++ self.reader.drop (self.read amount want).length = self.reader := by
  unfold read
  rw [List.length_take]
  generalize min (max 1 want) amount = n
  rcases Nat.le_total n self.reader.length with h | h
  · rw [Nat.min_eq_left h, List.take_append_drop]
  · rw [Nat.min_eq_right h, List.drop_length, List.append_nil, List.take_of_length_le h]

/-- The reader after a read, which has moved the bytes into the buffer and noted the time. -/
def received (self : FrameReader) (progress : FrameReadProgress) (want : ℕ) (now : MonoTime) :
    FrameReader :=
  let chunk := self.read (readAmount progress) want
  { self with
    reader := self.reader.drop chunk.length
    buffer := self.buffer ++ chunk
    lastProgress := some now }

/-- **A chunk that was asked for leaves the reader where it was in the stream.**  The chunk goes
from the front of what is unread to the end of the buffer. -/
theorem Sound.received (h : self.Sound) {progress : FrameReadProgress}
    (hneeded : progress.needed = lacking self.codec.bound self.buffer) (want : ℕ) (now : MonoTime) :
    (self.received progress want now).Sound ∧
      (self.received progress want now).pending = self.pending := by
  refine ⟨⟨h.running, h.notPast.append ?_⟩, ?_⟩
  · exact (self.length_read_le _ want).trans ((Nat.min_le_left _ _).trans hneeded.le)
  · unfold pending FrameReader.received
    rw [List.append_assoc, read_append_drop]

/-- A read of nothing is the end of the stream. -/
theorem reader_of_read_empty {progress : FrameReadProgress} {want : ℕ} (h : 0 < progress.needed)
    (hread : (self.read (readAmount progress) want).isEmpty) : self.reader = [] := by
  have hamount : min (max 1 want) (readAmount progress) ≠ 0 := by
    unfold readAmount scratchLength
    omega
  unfold read at hread
  rw [List.isEmpty_iff, List.take_eq_nil_iff] at hread
  exact hread.resolve_left hamount

/-- A call that finds too little in the buffer waits for the next event. -/
theorem next_of_lacking {progress : FrameReadProgress}
    (hdecode : self.codec.decode self.buffer = (.ok (.needMore progress), self.codec,
      self.buffer)) :
    next t8 clock self events =
      match self.deadline t8, events with
      | .error failure, events => ⟨some (.error failure), self, clock, events⟩
      | .ok _, [] => ⟨none, self, clock, []⟩
      | .ok _, .cancelled :: events =>
        ⟨some (.error (.transport ⟨.cancelled⟩)), self, clock, events⟩
      | .ok deadline, .deadlineElapsed :: events =>
        if deadline.isSome then ⟨some (.error .intercharacterTimeout), self, clock, events⟩
        else next t8 clock self events
      | .ok _, .failed kind :: events => ⟨some (.error (.transport ⟨kind⟩)), self, clock, events⟩
      | .ok _, .read want now :: events =>
        if (self.read (readAmount progress) want).isEmpty then
          ⟨some (.error (.endOfStream progress)), self, now, events⟩
        else next t8 now (self.received progress want now) events := by
  obtain ⟨reader, codec, buffer, lastProgress⟩ := self
  dsimp only at hdecode
  cases events with
  | nil =>
    rw [next]
    dsimp only
    rw [hdecode]
    dsimp only
    cases deadline ⟨reader, codec, buffer, lastProgress⟩ t8 <;> rfl
  | cons event events =>
    rw [next]
    dsimp only
    rw [hdecode]
    dsimp only
    cases deadline ⟨reader, codec, buffer, lastProgress⟩ t8 with
    | error failure => rfl
    | ok deadline => cases event <;> rfl

/-- What a call comes to when the buffer lacks nothing. -/
theorem comes_of_full (h : self.Sound) (hfull : lacking self.codec.bound self.buffer = 0) :
    Comes self (next t8 clock self events).result (next t8 clock self events).reader := by
  rcases h.cases_of_full hfull with ⟨raw, hfits, hbuffer⟩ | ⟨fault, hdecode⟩
  · rw [next_of_frame h hfits hbuffer]
    exact .frame ⟨hfits, rfl, rfl, congrArg (· ++ self.reader) hbuffer⟩
  · have hbuffer := hdecode []
    rw [List.append_nil] at hbuffer
    rw [next_of_fault hbuffer]
    exact .framing rfl (hdecode self.reader)

/-- A reader that goes on where this one is comes to what this one comes to. -/
theorem Comes.trans {other after : FrameReader} {result : Option (Except ReadFailure ReadFrame)}
    (h : Comes other result after) (hcodec : other.codec = self.codec)
    (hpending : other.pending = self.pending) : Comes self result after := by
  cases h with
  | waiting h =>
    exact .waiting ⟨h.sound, h.codec_eq.trans hcodec, h.pending_eq.trans hpending, hcodec ▸ h.lacks⟩
  | interrupted hfailure h =>
    exact .interrupted hfailure
      ⟨h.sound, h.codec_eq.trans hcodec, h.pending_eq.trans hpending, hcodec ▸ h.lacks⟩
  | frame h =>
    rw [hcodec]
    exact .frame ⟨hcodec ▸ h.fits, h.codec_eq.trans hcodec, h.buffer_eq, hpending ▸ h.pending_eq⟩
  | framing hstopped h => exact .framing (hcodec ▸ hstopped) (hcodec ▸ hpending ▸ h)
  | ended hsound hsame h => exact .ended hsound (hsame.trans hcodec) (hcodec ▸ hpending ▸ h)

theorem isExternal_of_deadline {failure : ReadFailure} (h : self.deadline t8 = .error failure) :
    failure.IsExternal := by
  unfold deadline at h
  split at h
  · cases h
  · split at h
    · cases h
      trivial
    · cases h

/-- **What a call comes to depends on the bytes alone**, unless it is interrupted.  It goes by
induction over the events that resolve its waits. -/
theorem next_comes (h : self.Sound) (t8 : Duration) (clock : MonoTime) (events : List ReadEvent) :
    Comes self (next t8 clock self events).result (next t8 clock self events).reader := by
  induction events generalizing self clock with
  | nil =>
    rcases Nat.eq_zero_or_pos (lacking self.codec.bound self.buffer) with hfull | hlacking
    · exact comes_of_full h hfull
    · obtain ⟨progress, hdecode, -⟩ := HsmsSsCodec.decode_of_lacking h.running hlacking
      have hkept : Kept self self := ⟨h, rfl, rfl, hlacking⟩
      rw [next_of_lacking hdecode]
      cases hdeadline : self.deadline t8 with
      | error failure => exact .interrupted (isExternal_of_deadline hdeadline) hkept
      | ok deadline => exact .waiting hkept
  | cons event events ih =>
    rcases Nat.eq_zero_or_pos (lacking self.codec.bound self.buffer) with hfull | hlacking
    · exact comes_of_full h hfull
    · obtain ⟨progress, hdecode, hneeded⟩ := HsmsSsCodec.decode_of_lacking h.running hlacking
      have hkept : Kept self self := ⟨h, rfl, rfl, hlacking⟩
      rw [next_of_lacking hdecode]
      cases hdeadline : self.deadline t8 with
      | error failure => exact .interrupted (isExternal_of_deadline hdeadline) hkept
      | ok deadline =>
        cases event with
        | cancelled => exact .interrupted trivial hkept
        | failed kind => exact .interrupted trivial hkept
        | deadlineElapsed =>
          dsimp only
          split
          · exact .interrupted trivial hkept
          · exact ih h clock
        | read want now =>
          dsimp only
          split
          · rename_i hempty
            have hreader := reader_of_read_empty (hneeded ▸ hlacking) hempty
            refine .ended h rfl ?_
            unfold pending
            rw [hreader, List.append_nil]
            exact hdecode
          · obtain ⟨hsound, hpending⟩ := h.received hneeded want now
            exact (ih hsound now).trans rfl hpending

/-! ## Runs of calls -/

/-- What the application sees of a frame, apart from its time. -/
def decodedFrame (frame : ReadFrame) : DecodedFrame := (some frame.header, frame.decoded)

/-- **A run of calls returns what draining the stream returns**, up to where it was cut short. -/
inductive Ran (self : FrameReader) : ReadRun → Prop where
  | cut {run : ReadRun} (hfailure : ∀ failure, run.failure = some failure → failure.IsExternal)
      (hsound : run.reader.Sound) (hcodec : run.reader.codec = self.codec)
      (h : self.codec.drain self.pending =
        (self.codec.drain run.reader.pending).append (run.frames.map decodedFrame)) : Ran self run
  | framing {run : ReadRun} {fault : FramingFault} (hfailure : run.failure = some (.framing fault))
      (hstopped : run.reader.codec.frameDecoder.terminalFault = some fault)
      (hframes : (self.codec.drain self.pending).frames = run.frames.map decodedFrame)
      (houtcome : (self.codec.drain self.pending).outcome = .error fault) : Ran self run
  | ended {run : ReadRun} {progress : FrameReadProgress}
      (hfailure : run.failure = some (.endOfStream progress)) (hsound : run.reader.Sound)
      (hcodec : run.reader.codec = self.codec)
      (hframes : (self.codec.drain self.pending).frames = run.frames.map decodedFrame)
      (houtcome : (self.codec.drain self.pending).outcome = .ok progress) : Ran self run

theorem Took.sound {other : FrameReader} {raw : RawFrame} (hself : self.Sound)
    (h : Took self other raw) : other.Sound where
  running := by
    rw [h.codec_eq]
    exact hself.running
  notPast := by
    rw [h.buffer_eq]
    exact notPast_nil _

theorem Took.drain {other : FrameReader} {raw : RawFrame} (hself : self.Sound)
    (h : Took self other raw) : self.codec.drain self.pending =
      (other.codec.drain other.pending).cons
        (some raw.header.snapshot, HsmsSsCodec.interpret self.codec.decoder raw) := by
  have hpending : other.pending = other.reader := by
    unfold pending
    rw [h.buffer_eq, List.nil_append]
  rw [h.pending_eq, HsmsSsCodec.drain_frame hself.running h.fits, h.codec_eq, hpending]

theorem Kept.drain {other : FrameReader} (h : Kept self other) :
    self.codec.drain self.pending = (other.codec.drain other.pending).append [] := by
  rw [h.codec_eq, h.pending_eq]
  rfl

/-- **A run of calls depends on the bytes alone**, up to where it was cut short. -/
theorem readFrames_ran (h : self.Sound) (t8 : Duration) (clock : MonoTime) (events : List ReadEvent)
    (calls : ℕ) :
    Ran self (readFrames t8 calls clock self events) := by
  induction calls generalizing self clock events with
  | zero => exact .cut (fun _ hnone => nomatch hnone) h rfl rfl
  | succ calls ih =>
    have hcomes := next_comes h t8 clock events
    unfold readFrames
    dsimp only
    generalize next t8 clock self events = polled at hcomes
    obtain ⟨result, reader, clock, events⟩ := polled
    dsimp only at hcomes ⊢
    cases hcomes with
    | waiting hkept =>
      exact .cut (fun _ hnone => nomatch hnone) hkept.sound hkept.codec_eq
        (hkept.codec_eq ▸ hkept.drain)
    | interrupted hfailure hkept =>
      refine .cut ?_ hkept.sound hkept.codec_eq (hkept.codec_eq ▸ hkept.drain)
      rintro _ ⟨⟩
      exact hfailure
    | framing hcodec hdecode =>
      have hdrain := HsmsSsCodec.drain_error hdecode
      refine .framing rfl ?_ (by rw [hdrain]; rfl) (by rw [hdrain])
      dsimp only
      rw [hcodec]
      rfl
    | ended hsound hcodec hdecode =>
      have hdrain := HsmsSsCodec.drain_needMore hdecode
      exact .ended rfl hsound hcodec (by rw [hdrain]; rfl) (by rw [hdrain])
    | frame htook =>
      have hdrain := htook.drain h
      have hrest := ih (htook.sound h) clock events
      dsimp only
      cases hrest with
      | cut hfailure hsound hcodec hrun =>
        refine .cut hfailure hsound (hcodec.trans htook.codec_eq) ?_
        rw [hdrain, hrun, htook.codec_eq]
        rfl
      | framing hfailure hstopped hframes houtcome =>
        refine .framing hfailure hstopped ?_ ?_
        · rw [hdrain]
          exact congrArg (List.cons _) hframes
        · rw [hdrain]
          exact houtcome
      | ended hfailure hsound hcodec hframes houtcome =>
        refine .ended hfailure hsound (hcodec.trans htook.codec_eq) ?_ ?_
        · rw [hdrain]
          exact congrArg (List.cons _) hframes
        · rw [hdrain]
          exact houtcome

/-! ## Boundaries -/

/-- How many bytes the reader would request next. -/
def request (self : FrameReader) : Option ℕ :=
  match self.codec.decode self.buffer with
  | (.ok (.needMore progress), _, _) => some (readAmount progress)
  | _ => none

/-- **No byte behind the current frame is requested**, whatever frame the buffered bytes turn out to
begin. -/
theorem request_le (h : self.Sound) {amount : ℕ} (hrequest : self.request = some amount)
    (more : List UInt8) :
    self.buffer.length + amount ≤ decidingFront self.codec.bound (self.buffer ++ more) := by
  have hfront : lengthPrefixBytes ≤ decidingFront self.codec.bound (self.buffer ++ more) :=
    lengthPrefixBytes_le_decidingFront
  unfold request at hrequest
  rcases Nat.eq_zero_or_pos (lacking self.codec.bound self.buffer) with hfull | hlacking
  · rcases h.cases_of_full hfull with ⟨raw, hfits, hbuffer⟩ | ⟨fault, hdecode⟩
    · have hdecode := HsmsSsCodec.decode_frame h.running hfits []
      have hcomplete := HsmsSsCodec.interpret_isComplete self.codec.decoder raw
      rw [List.append_nil, ← hbuffer] at hdecode
      rw [hdecode] at hrequest
      generalize HsmsSsCodec.interpret self.codec.decoder raw = step at hrequest hcomplete
      cases step with
      | needMore progress => exact hcomplete.elim
      | message message => cases hrequest
      | headerViolation violation => cases hrequest
      | payloadViolation violation source => cases hrequest
    · have hbuffer := hdecode []
      rw [List.append_nil] at hbuffer
      rw [hbuffer] at hrequest
      cases hrequest
  · obtain ⟨progress, hdecode, hneeded⟩ := HsmsSsCodec.decode_of_lacking h.running hlacking
    rw [hdecode] at hrequest
    obtain rfl := Option.some.inj hrequest
    have hamount : readAmount progress ≤ lacking self.codec.bound self.buffer :=
      (Nat.min_le_left _ _).trans hneeded.le
    unfold lacking at hamount hlacking
    split_ifs at hamount hlacking with hshort
    · omega
    · rw [decidingFront_append (Nat.not_lt.mp hshort)]
      omega

/-- **In no run is a byte behind the current frame requested.**  What is requested is bounded by
what the current frame lacks, in every state of a run. -/
theorem readFrames_request_le (h : self.Sound) {calls amount : ℕ}
    (hrequest : (readFrames t8 calls clock self events).reader.request = some amount)
    (more : List UInt8) : (readFrames t8 calls clock self events).reader.buffer.length + amount ≤
      decidingFront self.codec.bound
        ((readFrames t8 calls clock self events).reader.buffer ++ more) := by
  have hran := readFrames_ran h t8 clock events calls
  generalize readFrames t8 calls clock self events = run at hran hrequest
  cases hran with
  | cut hfailure hsound hcodec h => exact hcodec ▸ request_le hsound hrequest more
  | framing hfailure hstopped hframes houtcome =>
    unfold request at hrequest
    rw [HsmsSsCodec.decode_of_fault hstopped] at hrequest
    cases hrequest
  | ended hfailure hsound hcodec hframes houtcome =>
    exact hcodec ▸ request_le hsound hrequest more

/-- **The buffer is empty at every frame boundary**: as many frames as calls have been taken from
the stream, and nothing else. -/
theorem readFrames_boundary (h : self.Sound) (hbuffer : self.buffer = []) {calls : ℕ}
    (hcalls : (readFrames t8 calls clock self events).frames.length = calls) :
    (readFrames t8 calls clock self events).reader.buffer = [] ∧
      ∃ raws : List RawFrame, raws.length = calls ∧
        self.reader = (raws.map RawFrame.bytes).flatten ++
        (readFrames t8 calls clock self events).reader.reader := by
  induction calls generalizing self clock events with
  | zero => exact ⟨hbuffer, [], rfl, rfl⟩
  | succ calls ih =>
    have hcomes := next_comes h t8 clock events
    unfold readFrames at hcalls ⊢
    dsimp only at hcalls ⊢
    generalize next t8 clock self events = polled at hcomes hcalls
    obtain ⟨result, reader, clock, events⟩ := polled
    dsimp only at hcomes hcalls ⊢
    cases hcomes with
    | waiting hkept => cases hcalls
    | interrupted hfailure hkept => cases hcalls
    | framing => cases hcalls
    | ended => cases hcalls
    | @frame _ raw _ htook =>
      obtain ⟨hempty, raws, hlength, hraws⟩ :=
        ih (htook.sound h) htook.buffer_eq (Nat.succ.inj hcalls)
      refine ⟨hempty, raw :: raws, congrArg Nat.succ hlength, ?_⟩
      have hpending := htook.pending_eq
      unfold pending at hpending
      rw [hbuffer, List.nil_append] at hpending
      rw [hpending, List.map_cons, List.flatten_cons, List.append_assoc, ← hraws]

/-! ## Undisturbed runs -/

/-- A call that is given nothing but reads, one more than the peer sends bytes, ends with the stream
or with a frame, and leaves as many reads for the bytes that remain. -/
theorem next_delivered (h : self.Sound) (clock : MonoTime) {deadline : Option MonoTime}
    (hdeadline : self.deadline t8 = .ok deadline) (hevents : ∀ event ∈ events, event.Delivers t8)
    (hlength : self.reader.length < events.length) :
    (∃ failure, (next t8 clock self events).result = some (.error failure) ∧ ¬ failure.IsExternal) ∨
      ∃ frame, (next t8 clock self events).result = some (.ok frame) ∧
        (next t8 clock self events).reader.lastProgress = none ∧
        (∀ event ∈ (next t8 clock self events).events, event.Delivers t8) ∧
        (next t8 clock self events).reader.reader.length <
          (next t8 clock self events).events.length := by
  induction events generalizing self clock deadline with
  | nil => exact absurd hlength (Nat.not_lt_zero _)
  | cons event events ih =>
    rcases Nat.eq_zero_or_pos (lacking self.codec.bound self.buffer) with hfull | hlacking
    · rcases h.cases_of_full hfull with ⟨raw, hfits, hbuffer⟩ | ⟨fault, hdecode⟩
      · rw [next_of_frame h hfits hbuffer]
        exact .inr ⟨_, rfl, rfl, hevents, hlength⟩
      · have hbuffer := hdecode []
        rw [List.append_nil] at hbuffer
        rw [next_of_fault hbuffer]
        exact .inl ⟨_, rfl, id⟩
    · obtain ⟨progress, hdecode, hneeded⟩ := HsmsSsCodec.decode_of_lacking h.running hlacking
      obtain ⟨hevent, hothers⟩ := List.forall_mem_cons.mp hevents
      rw [next_of_lacking hdecode, hdeadline]
      cases event with
      | cancelled => exact hevent.elim
      | deadlineElapsed => exact hevent.elim
      | failed kind => exact hevent.elim
      | read want now =>
        dsimp only
        split
        · exact .inl ⟨_, rfl, id⟩
        · rename_i hchunk
          obtain ⟨later, hlater⟩ := Option.ne_none_iff_exists'.mp hevent
          have hdeadline : (self.received progress want now).deadline t8 = .ok (some later) := by
            unfold FrameReader.deadline received
            dsimp only
            rw [hlater]
          refine ih (h.received hneeded want now).1 now hdeadline hothers ?_
          have hpos := List.length_pos_iff.mpr (mt List.isEmpty_iff.mpr hchunk)
          have hread := congrArg List.length
            (self.read_append_drop (readAmount progress) want)
          rw [List.length_append] at hread
          rw [List.length_cons] at hlength
          unfold received
          dsimp only
          omega

/-- **A run that is given enough reads ends with the stream**: with the fault of the framing, or at
the end that the peer makes. -/
theorem readFrames_delivered (h : self.Sound) (clock : MonoTime) {deadline : Option MonoTime}
    (hdeadline : self.deadline t8 = .ok deadline) (hevents : ∀ event ∈ events, event.Delivers t8)
    (hlength : self.reader.length < events.length) {calls : ℕ}
    (hcalls : self.pending.length < calls) :
    ∃ failure, (readFrames t8 calls clock self events).failure = some failure ∧
      ¬ failure.IsExternal := by
  induction calls generalizing self clock events deadline with
  | zero => exact absurd hcalls (Nat.not_lt_zero _)
  | succ calls ih =>
    have hcomes := next_comes h t8 clock events
    have hnext := next_delivered h clock hdeadline hevents hlength
    unfold readFrames
    dsimp only
    generalize next t8 clock self events = polled at hcomes hnext
    obtain ⟨result, reader, clock, events⟩ := polled
    dsimp only at hcomes hnext ⊢
    rcases hnext with ⟨failure, rfl, hinternal⟩ | ⟨frame, rfl, hprogress, hevents, hlength⟩
    · exact ⟨failure, rfl, hinternal⟩
    · cases hcomes with
      | @frame _ raw _ htook =>
        have hfresh : reader.deadline t8 = .ok none := by
          unfold FrameReader.deadline
          rw [hprogress]
        refine ih (htook.sound h) clock hfresh hevents hlength ?_
        have hpending := congrArg List.length htook.pending_eq
        have hpos := HsmsSsCodec.length_bytes_pos raw
        rw [List.length_append] at hpending
        unfold pending at hpending hcalls ⊢
        rw [htook.buffer_eq, List.nil_append]
        omega

/-! ## Any chunking -/

/-- The failure that ends the reading of a stream. -/
def failureOf : Except FramingFault FrameReadProgress → ReadFailure
  | .error fault => .framing fault
  | .ok progress => .endOfStream progress

/-- **An undisturbed run returns exactly what draining the stream returns.**  Undisturbed means
that its events are reads, and enough of them. -/
theorem readFrames_drain {reader : List UInt8} {limits : EndpointLimits} {decoder : DecodeLimits}
    (hevents : ∀ event ∈ events, event.Delivers t8) (hlength : reader.length < events.length)
    {calls : ℕ} (hcalls : reader.length < calls) :
    let run := readFrames t8 calls clock (new reader limits decoder) events
    let drained := (HsmsSsCodec.new limits decoder).drain reader
    run.frames.map decodedFrame = drained.frames ∧
      run.failure = some (failureOf drained.outcome) := by
  obtain ⟨failure, hfailure, hinternal⟩ := readFrames_delivered (sound_new reader limits decoder)
    clock rfl hevents hlength hcalls
  have hran := readFrames_ran (sound_new reader limits decoder) t8 clock events calls
  dsimp only
  cases hran with
  | cut hexternal => exact absurd (hexternal failure hfailure) hinternal
  | framing hframing hstopped hframes houtcome =>
    exact ⟨hframes.symm, hframing.trans (congrArg (some ∘ failureOf) houtcome).symm⟩
  | ended hended hsound hcodec hframes houtcome =>
    exact ⟨hframes.symm, hended.trans (congrArg (some ∘ failureOf) houtcome).symm⟩

/-- **HSMS frames survive any chunking.**  What a stream of bytes is decoded to depends on the bytes
alone: the reader returns it however each read is cut, and so does the codec on any chunks.  Every
message and every violation takes its own frame and nothing else; what is incomplete is left alone;
a framing fault is final; and nothing behind the current frame is requested.  Encodings of messages
are decoded to these messages. -/
theorem frames_survive_chunking (limits : EndpointLimits) (decoder : DecodeLimits) :
    let codec := HsmsSsCodec.new limits decoder
    (∀ (stream : List UInt8) (t8 : Duration) (clock : MonoTime) (events : List ReadEvent)
      (calls : ℕ), (∀ event ∈ events, event.Delivers t8) → stream.length < events.length →
      stream.length < calls →
      let run := readFrames t8 calls clock (new stream limits decoder) events
      run.frames.map decodedFrame = (codec.drain stream).frames ∧
        run.failure = some (failureOf (codec.drain stream).outcome)) ∧
    (∀ chunks : List (List UInt8), codec.feed [] chunks = codec.drain chunks.flatten) ∧
    (∀ (stream : List UInt8) (t8 : Duration) (clock : MonoTime) (events : List ReadEvent)
      (calls : ℕ), let run := readFrames t8 calls clock (new stream limits decoder) events
      (run.frames.length = calls → run.reader.buffer = [] ∧ ∃ raws : List RawFrame,
        raws.length = calls ∧ stream = (raws.map RawFrame.bytes).flatten ++ run.reader.reader) ∧
      ∀ amount, run.reader.request = some amount → ∀ more,
        run.reader.buffer.length + amount ≤
          decidingFront limits.maxMessageLength (run.reader.buffer ++ more)) ∧
    (∀ (running : HsmsSsCodec) (input : List UInt8),
      (∀ step after rest, running.decode input = (.ok step, after, rest) → step.IsComplete →
        ∃ raw : RawFrame, input = raw.bytes ++ rest ∧ after = running ∧
          step = HsmsSsCodec.interpret running.decoder raw) ∧
      (∀ progress after rest, running.decode input = (.ok (.needMore progress), after, rest) →
        after = running ∧ rest = input) ∧
      ∀ fault after rest, running.decode input = (.error fault, after, rest) →
        ∀ more, after.decode more = (.error fault, after, more)) ∧
    ∀ (messages : List ProtocolMessage) (encodings : List (List UInt8)),
      messages.mapM codec.encode = .ok encodings →
      (∀ message ∈ messages, message.Within decoder) →
      (codec.drain encodings.flatten).frames.map Prod.snd =
          messages.map HsmsSsDecodeStep.message ∧
        (codec.drain encodings.flatten).outcome = .ok (.awaitingLength 0) := by
  intro codec
  have hfresh (stream : List UInt8) : (new stream limits decoder).Sound :=
    sound_new stream limits decoder
  refine ⟨fun stream t8 clock events calls hevents hlength hcalls => ?_, fun chunks => ?_,
    fun stream t8 clock events calls => ⟨fun hcalls => ?_, fun amount hrequest more => ?_⟩,
    fun running input => ⟨fun step after rest h hcomplete => ?_, fun progress after rest h => ?_,
      fun fault after rest h more => ?_⟩, fun messages encodings hencode hwithin => ?_⟩
  · exact readFrames_drain hevents hlength hcalls
  · exact HsmsSsCodec.feed_eq_drain codec [] chunks
  · exact readFrames_boundary (hfresh stream) rfl hcalls
  · exact readFrames_request_le (hfresh stream) hrequest more
  · obtain ⟨raw, -, hinput, hafter, hstep⟩ := HsmsSsCodec.exists_of_decode h hcomplete
    exact ⟨raw, hinput, hafter, hstep⟩
  · exact HsmsSsCodec.unchanged_of_needMore h
  · exact HsmsSsCodec.stays_stopped h more
  · have hroom : hsmsHeaderLength ≤ codec.wireEncoder.maxMessageLength := limits.header_le
    obtain ⟨raws, rfl, hfits, hmeans⟩ := HsmsSsCodec.exists_of_encode_all hroom hencode hwithin
    have hempty : codec.drain [] = ⟨[], .ok (.awaitingLength 0), codec, []⟩ :=
      HsmsSsCodec.drain_needMore rfl
    rw [HsmsSsCodec.drain_encodings (HsmsSsCodec.running_new limits decoder) hfits, hempty]
    refine ⟨?_, rfl⟩
    rw [Drained.append, List.append_nil, List.map_map, ← hmeans]
    rfl

/-- A Linktest request and a Primary, sent one behind the other and read byte by byte: both come out
as they were sent, and then the stream ends. -/
theorem frames_survive_chunking_of_messages :
    let messages : List ProtocolMessage := [.control (.linktestRequest ⟨1⟩), .data samplePrimary]
    let linktest : List UInt8 := [0, 0, 0, 0x0A, 0xFF, 0xFF, 0, 0, 0, 5, 0, 0, 0, 1]
    let stream := linktest ++ sampleBytes
    let events := List.replicate 40 (ReadEvent.read 1 .zero)
    let run := readFrames HsmsTimeouts.default.t8 40 .zero (new stream .default .default) events
    (run.frames.map decodedFrame).map Prod.snd = messages.map HsmsSsDecodeStep.message ∧
      run.failure = some (.endOfStream (.awaitingLength 0)) := by
  intro messages linktest stream events run
  obtain ⟨hreads, -, -, -, hmessages⟩ := frames_survive_chunking .default .default
  obtain ⟨hframes, hfailure⟩ := hreads stream HsmsTimeouts.default.t8 .zero events 40
    (fun event hevent => by rw [List.eq_of_mem_replicate hevent]; exact Option.some_ne_none _)
    (by decide) (by decide)
  obtain ⟨hsent, houtcome⟩ := hmessages messages [linktest, sampleBytes] rfl
    (List.forall_mem_cons.mpr ⟨trivial, List.forall_mem_singleton.mpr samplePrimary_within⟩)
  have hstream : stream = [linktest, sampleBytes].flatten := rfl
  rw [hframes, hfailure, hstream, hsent, houtcome]
  exact ⟨rfl, rfl⟩

end FrameReader

end Hsms
end SecsRust
