import SecsRust.Lib.Machine
import SecsRust.Hsms.Config.Runtime
import SecsRust.Hsms.Generation.Transport.Reader
import SecsRust.Hsms.Generation.Transport.Writer

/-!
# The reader task

`ReaderWorker` of `hsms/generation/transport/bounded_reader.rs`.  The task reserves a slot,
the bytes of a largest frame and a place in the queue, and only then reads one frame, which
it publishes without waiting again.  A report keeps its slot and its bytes until the
consumer drops it.

The task is a machine over whatever can happen to it: time passes, bytes arrive, one of its
waits is resolved, the consumer takes or drops a report.  Time is the clock of the state and
never goes back.  A wait for T8 is resolved no earlier than its deadline; bytes are read no
earlier than they have arrived.

## Pacing

The task makes two promises.  Pressure from the consumer is felt between frames only: while
the task waits for capacity it holds no byte of a frame.  And T8 counts the silence inside a
frame only, from its last byte. Both are about when things happen, so the history records
each byte with the time of its arrival. `Divided` cuts what has arrived into the frames that
are published, the current frame, and what has not been read; `Tracked` adds the time at
which the current frame was last added to, and `Paced` that nothing complete is left in the
buffer.  `Performs` lists what a step can do, and each invariant is one case analysis over
it.

## Permits

`Budgeted` is the other half: every slot, byte and place is free, held by the task, or held
by a report. From it come the bounds on what is buffered, and that a reservation goes on
while nobody holds a report (`Budgeted.reserves`), so the task does not wait for capacity
that it holds itself.
-/

namespace SecsRust
namespace Hsms

open Secs2

/-- `ReaderReport`: besides its wire bytes it holds one slot. -/
structure ReaderReport where
  frame : ReadFrame
  bytes : ℕ

/-- `ReaderWorker`: `reports` is its FIFO with `room` free places, `bytes` and `slots` are the
permits that are left. -/
structure ReaderWorker where
  reader : FrameReader
  reports : List ReaderReport
  room : ℕ
  bytes : ℕ
  slots : ℕ
  frameBytes : ℕ
  t8 : Duration

namespace ReaderWorker

/-- `ReaderWorker::new`, before anything has arrived.  The source asks of T8 that the clock can
count it from the epoch as well.  The epoch of the model is time zero, and every `Duration` can be
counted from there, so this part of the check cannot fail and is left out; in production
`from_config` comes here only after `validate` has added T8 to the clock, whose range is narrower
than that of `Duration` on Linux. -/
def new (limits : EndpointLimits) (decoder : DecodeLimits) (t8 : Duration) (capacity wireBytes : ℕ)
    (target : Target := .sixtyFour) : Except String ReaderWorker :=
  match (target.checkedAdd limits.maxMessageLength 4).filter (· ≤ u32Max) with
  | none => .error "Reader frame reservation is not representable"
  | some frameBytes =>
    if capacity = 0 ∨ capacity > target.maxPermits ∨ wireBytes < frameBytes ∨
        wireBytes > target.maxPermits then
      .error "Reader capacity cannot hold a maximum frame"
    else if t8.nanos = 0 then .error "Reader T8 is not representable"
    else
      .ok {
        reader := .new [] limits decoder
        reports := []
        room := capacity
        bytes := wireBytes
        slots := capacity
        frameBytes := frameBytes
        t8 := t8 }

/-- `from_config`: one slot, and the inbound bytes of the policy. -/
def fromConfig (config : EndpointConfig) (now : MonoTime) (target : Target := .sixtyFour) :
    Except ConfigError ReaderWorker :=
  match config.validate now target with
  | .error error => .error error
  | .ok () =>
    (new config.limits config.secs2Limits config.timeouts.t8 1 config.runtime.inboundBytes
      target).mapError .runtimePolicy

end ReaderWorker

/-! ## The task -/

/-- Where `run` stands: at one of the three waits of the reservation, in `FrameReader::next`, or at
its end. -/
inductive ReaderPhase where
  | awaitingSlot
  | awaitingBytes
  | awaitingQueue
  | reading
  | ended (result : Except ReadFailure Unit)

namespace ReaderPhase

/-- The slots that `run` holds: one from the first permit to the end of the frame. -/
def slots : ReaderPhase → ℕ
  | awaitingSlot | ended _ => 0
  | awaitingBytes | awaitingQueue | reading => 1

/-- The largest frames whose bytes `run` holds. -/
def frames : ReaderPhase → ℕ
  | awaitingSlot | awaitingBytes | ended _ => 0
  | awaitingQueue | reading => 1

/-- The places of the queue that `run` holds. -/
def places : ReaderPhase → ℕ
  | awaitingSlot | awaitingBytes | awaitingQueue | ended _ => 0
  | reading => 1

/-- `run` waits for capacity, so it holds no byte of a frame. -/
def IsReserving : ReaderPhase → Prop
  | awaitingSlot | awaitingBytes | awaitingQueue => True
  | reading | ended _ => False

end ReaderPhase

/-- The task with its surroundings: `finished` says that the peer sends no more, `held` are the
reports that the consumer has taken and not dropped. -/
structure ReaderTask where
  worker : ReaderWorker
  phase : ReaderPhase
  clock : MonoTime
  finished : Bool
  held : List ReaderReport

/-- What happens to the task: to the clock, to the stream, to one of its waits, or to its
reports. -/
inductive ReaderTaskInput where
  | elapse (now : MonoTime)
  | arrive (bytes : List UInt8)
  | finish
  -- the next wait of the reservation is polled
  | reserve
  -- the call of `next` is dropped and made again
  | retry
  | cancelled
  | closed
  | read (want : ℕ)
  | deadlineElapsed
  | failed (kind : TransportFaultKind)
  -- what the consumer does
  | receive
  | release (index : ℕ)

/-- What is seen of the task. -/
inductive ReaderTaskEffect where
  | arrived (byte : UInt8) (time : MonoTime)
  | published (report : ReaderReport)
  | ended (result : Except ReadFailure Unit) (time : MonoTime)

namespace ReaderTask

/-- A task that has just been spawned. -/
def start (worker : ReaderWorker) : ReaderTask := ⟨worker, .awaitingSlot, .zero, false, []⟩

/-- `run` returns, and drops what it holds. -/
def stop (task : ReaderTask) (result : Except ReadFailure Unit) :
    ReaderTask × List ReaderTaskEffect :=
  ({ task with
      worker := { task.worker with
        room := task.worker.room + task.phase.places
        bytes := task.worker.bytes + task.phase.frames * task.worker.frameBytes
        slots := task.worker.slots + task.phase.slots }
      phase := .ended result },
    [.ended result task.clock])

/-- `queue.send`: the report takes over the slot and the bytes. -/
def publish (task : ReaderTask) (frame : ReadFrame) : ReaderTask × List ReaderTaskEffect :=
  let report : ReaderReport := ⟨frame, task.worker.frameBytes⟩
  ({ task with
      worker := { task.worker with reports := task.worker.reports ++ [report] }
      phase := .awaitingSlot },
    [.published report])

/-- The task with another reader. -/
def withReader (task : ReaderTask) (reader : FrameReader) : ReaderTask :=
  { task with worker := { task.worker with reader := reader } }

/-- What `run` makes of what a call of `next` has come to. -/
def conclude (task : ReaderTask) :
    Option (Except ReadFailure ReadFrame) → ReaderTask × List ReaderTaskEffect
  | none => (task, [])
  | some (.error failure) => task.stop (.error failure)
  | some (.ok frame) => task.publish frame

/-- `self.reader.next`, as far as the events resolve its waits. -/
def poll (task : ReaderTask) (events : List ReadEvent) : ReaderTask × List ReaderTaskEffect :=
  let polled := task.worker.reader.next task.worker.t8 task.clock events
  (task.withReader polled.reader).conclude polled.result

/-- The reservation goes on if what it waits for is there. -/
def reserve (task : ReaderTask) : ReaderTask × List ReaderTaskEffect :=
  let worker := task.worker
  match task.phase with
  | .awaitingSlot =>
    if worker.slots = 0 then (task, [])
    else
      ({ task with worker := { worker with slots := worker.slots - 1 }, phase :=
        .awaitingBytes }, [])
  | .awaitingBytes =>
    if worker.bytes < worker.frameBytes then (task, [])
    else
      ({ task with
          worker := { worker with bytes := worker.bytes - worker.frameBytes }
          phase := .awaitingQueue }, [])
  | .awaitingQueue =>
    if worker.room = 0 then (task, [])
    else
      { task with worker := { worker with room := worker.room - 1 }, phase := .reading }.poll []
  | .reading | .ended _ => (task, [])

/-- A wait of `next` is resolved. -/
def resolve (task : ReaderTask) (events : List ReadEvent) : ReaderTask × List ReaderTaskEffect :=
  match task.phase with
  | .reading => task.poll events
  | _ => (task, [])

/-- Cancellation is seen at any wait. -/
def cancel (task : ReaderTask) : ReaderTask × List ReaderTaskEffect :=
  match task.phase with
  | .reading => task.poll [.cancelled]
  | .ended _ => (task, [])
  | _ => task.stop (.error (.transport ⟨.cancelled⟩))

/-- `self.reports.closed()` is seen at any wait. -/
def close (task : ReaderTask) : ReaderTask × List ReaderTaskEffect :=
  match task.phase with
  | .ended _ => (task, [])
  | _ => task.stop (.ok ())

/-- The T8 deadline that is armed, if it is due. -/
def dueDeadline (task : ReaderTask) : Bool :=
  match task.worker.reader.deadline task.worker.t8 with
  | .ok (some deadline) => deadline ≤ task.clock
  | _ => false

/-- The consumer takes the front of the queue. -/
def receive (task : ReaderTask) : ReaderTask :=
  match task.worker.reports with
  | [] => task
  | report :: reports =>
    { task with
      worker := { task.worker with reports := reports, room := task.worker.room + 1 }
      held := task.held ++ [report] }

/-- The consumer drops a report, and its slot and its bytes are free again. -/
def release (task : ReaderTask) (index : ℕ) : ReaderTask :=
  match task.held[index]? with
  | none => task
  | some report =>
    { task with
      worker := { task.worker with
        bytes := task.worker.bytes + report.bytes
        slots := task.worker.slots + 1 }
      held := task.held.eraseIdx index }

/-- Bytes arrive, unless the peer has finished. -/
def arrive (task : ReaderTask) (bytes : List UInt8) : ReaderTask × List ReaderTaskEffect :=
  if task.finished then (task, [])
  else
    let reader := task.worker.reader
    (task.withReader { reader with reader := reader.reader ++ bytes },
      bytes.map fun byte => .arrived byte task.clock)

/-- What an input does, if it can happen in this state. -/
def perform (task : ReaderTask) : ReaderTaskInput → ReaderTask × List ReaderTaskEffect
  | .elapse now => ({ task with clock := max task.clock now }, [])
  | .arrive bytes => task.arrive bytes
  | .finish => ({ task with finished := true }, [])
  | .reserve => task.reserve
  | .retry => task.resolve []
  | .cancelled => task.cancel
  | .closed => task.close
  -- a read of an open stream waits until something has arrived
  | .read want =>
    if task.worker.reader.reader.isEmpty && !task.finished then (task, [])
    else task.resolve [.read want task.clock]
  | .deadlineElapsed => if task.dueDeadline then task.resolve [.deadlineElapsed] else (task, [])
  | .failed kind => task.resolve [.failed kind]
  | .receive => (task.receive, [])
  | .release index => (task.release index, [])

/-- The task as a machine. -/
def machine : Machine ReaderTask ReaderTaskInput ReaderTaskEffect where
  step := perform

end ReaderTask

/-! ## One wait of the frame reader -/

namespace FrameReader

variable {self : FrameReader} {t8 : Duration} {clock : MonoTime}

/-- What a call makes of the buffer before it waits again.  It finds a whole frame or a fault
there, or it waits for a read. -/
inductive Settles (self : FrameReader) :
    Option (Except ReadFailure ReadFrame) → FrameReader → Prop where
  | waiting (hlacks : 0 < lacking self.codec.bound self.buffer) : Settles self none self
  | overflow (hlacks : 0 < lacking self.codec.bound self.buffer) :
      Settles self (some (.error .deadlineOverflow)) self
  | framing {fault : FramingFault} (hdecode : (self.codec.decode self.buffer).1 = .error fault) :
      Settles self (some (.error (.framing fault))) { self with codec := self.codec.stopped fault }
  | frame {raw : RawFrame} {time : MonoTime} (hfits : raw.Fits self.codec.bound)
      (hbuffer : self.buffer = raw.bytes) :
      Settles self (some (.ok ⟨raw.header.snapshot, HsmsSsCodec.interpret self.codec.decoder raw,
        time⟩)) { self with buffer := [], lastProgress := none }

theorem deadline_eq_error {failure : ReadFailure} (h : self.deadline t8 = .error failure) :
    failure = .deadlineOverflow := by
  unfold deadline at h
  cases hlast : self.lastProgress with
  | none => rw [hlast] at h; cases h
  | some last =>
    rw [hlast] at h
    dsimp only at h
    cases hadd : last.checkedAdd t8 with
    | none => rw [hadd] at h; exact (Except.error.inj h).symm
    | some deadline => rw [hadd] at h; cases h

theorem deadline_eq_some {due : MonoTime} (h : self.deadline t8 = .ok (some due)) :
    ∃ last, self.lastProgress = some last ∧ last.checkedAdd t8 = some due := by
  unfold deadline at h
  cases hlast : self.lastProgress with
  | none => rw [hlast] at h; cases h
  | some last =>
    rw [hlast] at h
    dsimp only at h
    cases hadd : last.checkedAdd t8 with
    | none => rw [hadd] at h; cases h
    | some deadline => rw [hadd] at h; exact ⟨last, rfl, hadd.trans (Except.ok.inj h)⟩

/-- A call that is not given an event only looks at the buffer. -/
theorem settles_next (h : self.Sound) :
    Settles self (next t8 clock self []).result (next t8 clock self []).reader := by
  rcases Nat.eq_zero_or_pos (lacking self.codec.bound self.buffer) with hfull | hlacking
  · rcases h.cases_of_full hfull with ⟨raw, hfits, hbuffer⟩ | ⟨fault, hdecode⟩
    · rw [next_of_frame h hfits hbuffer]
      exact .frame hfits hbuffer
    · have hbuffer := hdecode []
      rw [List.append_nil] at hbuffer
      rw [next_of_fault hbuffer]
      exact .framing (by rw [hbuffer])
  · obtain ⟨progress, hdecode, -⟩ := HsmsSsCodec.decode_of_lacking h.running hlacking
    rw [next_of_lacking hdecode]
    cases hdeadline : self.deadline t8 with
    | error failure =>
      rw [deadline_eq_error hdeadline]
      exact .overflow hlacking
    | ok deadline => exact .waiting hlacking

/-- What one wait, resolved at this time, comes to: a read, if any, after which the buffer is
settled, or an interruption. -/
inductive Resolves (self : FrameReader) (t8 : Duration) (clock : MonoTime) (event : ReadEvent) :
    Option (Except ReadFailure ReadFrame) → FrameReader → Prop where
  | unread {result : Option (Except ReadFailure ReadFrame)} {reader : FrameReader}
      (h : Settles self result reader) : Resolves self t8 clock event result reader
  | read {progress : FrameReadProgress} {want : ℕ}
      (hneeded : progress.needed = lacking self.codec.bound self.buffer)
      (hread : self.read (readAmount progress) want ≠ [])
      {result : Option (Except ReadFailure ReadFrame)} {reader : FrameReader}
      (h : Settles (self.received progress want clock) result reader) :
      Resolves self t8 clock event result reader
  | interrupted {failure : ReadFailure} (hframing : ∀ fault, failure ≠ .framing fault)
      (htimeout : failure = .intercharacterTimeout → event = .deadlineElapsed ∧
        ∃ due, self.deadline t8 = .ok (some due)) :
      Resolves self t8 clock event (some (.error failure)) self

/-- **A call with one event** reads at most once, and settles what is buffered then.  The clock
and T8 decide whether the event may be a timeout. -/
theorem resolves_next (h : self.Sound) (hlacks : 0 < lacking self.codec.bound self.buffer)
    {event : ReadEvent} (hnow : ∀ want now, event = .read want now → now = clock) :
    Resolves self t8 clock event (next t8 clock self [event]).result
      (next t8 clock self [event]).reader := by
  obtain ⟨progress, hdecode, hneeded⟩ := HsmsSsCodec.decode_of_lacking h.running hlacks
  rw [next_of_lacking hdecode]
  cases hdeadline : self.deadline t8 with
  | error failure =>
    rw [deadline_eq_error hdeadline]
    exact .unread (.overflow hlacks)
  | ok deadline =>
    cases event with
    | cancelled => exact .interrupted (fun _ heq => nomatch heq) fun heq => (nomatch heq)
    | failed kind => exact .interrupted (fun _ heq => nomatch heq) fun heq => (nomatch heq)
    | deadlineElapsed =>
      cases deadline with
      | none => exact .unread (settles_next h)
      | some due => exact .interrupted (fun _ heq => nomatch heq) fun _ => ⟨rfl, due, hdeadline⟩
    | read want now =>
      obtain rfl := hnow want now rfl
      dsimp only
      split
      · exact .interrupted (fun _ heq => nomatch heq) fun heq => (nomatch heq)
      · rename_i hread
        refine .read hneeded (mt List.isEmpty_iff.mpr hread) (settles_next ?_)
        exact (h.received hneeded want now).1

end FrameReader

/-! ## Where the bytes are -/

/-- Everything that has arrived, each byte with its time. -/
def arrivals (past : List ReaderTaskEffect) : List (UInt8 × MonoTime) :=
  past.filterMap fun
    | .arrived byte time => some (byte, time)
    | _ => none

/-- Everything that has been published. -/
def publishedReports (past : List ReaderTaskEffect) : List ReaderReport :=
  past.filterMap fun
    | .published report => some report
    | _ => none

theorem arrivals_append (past more : List ReaderTaskEffect) :
    arrivals (past ++ more) = arrivals past ++ arrivals more := List.filterMap_append

theorem publishedReports_append (past more : List ReaderTaskEffect) :
    publishedReports (past ++ more) = publishedReports past ++ publishedReports more :=
  List.filterMap_append

/-- What arrived is divided: the frames that are published, the current frame, and what has not been
read. -/
structure Divided (codec : HsmsSsCodec) (past : List ReaderTaskEffect) (reader : FrameReader)
    (raws : List RawFrame) (done current unread : List (UInt8 × MonoTime)) : Prop where
  arrivals_eq : arrivals past = done ++ current ++ unread
  done_eq : done.map Prod.fst = (raws.map RawFrame.bytes).flatten
  current_eq : current.map Prod.fst = reader.buffer
  unread_eq : unread.map Prod.fst = reader.reader
  fits : ∀ raw ∈ raws, raw.Fits codec.bound
  frames_eq : (publishedReports past).map (fun report => FrameReader.decodedFrame report.frame) =
    raws.map fun raw => (some raw.header.snapshot, HsmsSsCodec.interpret codec.decoder raw)
  early : ∀ last, reader.lastProgress = some last → ∀ arrival ∈ current, arrival.2 ≤ last

namespace Divided

variable {codec : HsmsSsCodec} {past : List ReaderTaskEffect} {reader : FrameReader}
  {raws : List RawFrame} {done current unread : List (UInt8 × MonoTime)}

/-- Effects that are neither arrivals nor frames change nothing. -/
theorem silent (h : Divided codec past reader raws done current unread)
    {more : List ReaderTaskEffect}
    (harrivals : arrivals more = []) (hreports : publishedReports more = []) :
    Divided codec (past ++ more) reader raws done current unread where
  arrivals_eq := by rw [arrivals_append, harrivals, List.append_nil, h.arrivals_eq]
  done_eq := h.done_eq
  current_eq := h.current_eq
  unread_eq := h.unread_eq
  fits := h.fits
  frames_eq := by rw [publishedReports_append, hreports, List.append_nil, h.frames_eq]
  early := h.early

/-- A reader that differs in its codec alone. -/
theorem withCodec (h : Divided codec past reader raws done current unread) (other : HsmsSsCodec) :
    Divided codec past { reader with codec := other } raws done current unread :=
  ⟨h.arrivals_eq, h.done_eq, h.current_eq, h.unread_eq, h.fits, h.frames_eq, h.early⟩

/-- **Arrivals wait behind what has not been read.**  They keep their times, by which the silence
inside of a frame is measured. -/
theorem arrive (h : Divided codec past reader raws done current unread) (bytes : List UInt8)
    (clock : MonoTime) :
    Divided codec (past ++ bytes.map fun byte => .arrived byte clock)
      { reader with reader := reader.reader ++ bytes } raws done current
      (unread ++ bytes.map fun byte => (byte, clock)) := by
  have harrivals : arrivals (bytes.map fun byte => .arrived byte clock) =
      bytes.map fun byte => (byte, clock) := by
    unfold arrivals
    rw [List.filterMap_map]
    exact congrFun List.filterMap_eq_map bytes
  have hreports : publishedReports (bytes.map fun byte => .arrived byte clock) = [] := by
    unfold publishedReports
    rw [List.filterMap_map]
    exact List.filterMap_eq_nil_iff.mpr fun _ _ => rfl
  refine ⟨?_, h.done_eq, h.current_eq, ?_, h.fits, ?_, h.early⟩
  · rw [arrivals_append, harrivals, h.arrivals_eq, List.append_assoc (done ++ current)]
  · rw [List.map_append, h.unread_eq, List.map_map]
    exact congrArg _ (List.map_id _)
  · rw [publishedReports_append, hreports, List.append_nil, h.frames_eq]

/-- **A read moves the front of what has not been read to the current frame.**  The order of the
bytes is not changed, and none is skipped. -/
theorem read (h : Divided codec past reader raws done current unread) {progress : FrameReadProgress}
    {want : ℕ} {clock : MonoTime} (hclock : ∀ arrival ∈ arrivals past, arrival.2 ≤ clock) :
    ∃ chunk rest, Divided codec past (reader.received progress want clock) raws done
      (current ++ chunk) rest := by
  set amount := min (max 1 want) (readAmount progress) with hamount
  have hread : reader.read (readAmount progress) want = reader.reader.take amount := rfl
  refine ⟨unread.take amount, unread.drop amount, ?_, h.done_eq, ?_, ?_, h.fits, h.frames_eq, ?_⟩
  · rw [h.arrivals_eq, List.append_assoc, List.append_assoc, List.append_assoc,
      List.take_append_drop]
  · rw [List.map_append, h.current_eq, List.map_take, h.unread_eq, ← hread]
    rfl
  · have hrest := reader.read_append_drop (readAmount progress) want
    rw [List.map_drop, h.unread_eq]
    show _ = reader.reader.drop (reader.read (readAmount progress) want).length
    refine List.append_cancel_left
      (?_ : reader.reader.take amount ++ _ = reader.reader.take amount ++ _)
    rw [List.take_append_drop, ← hread, hrest]
  · rintro last ⟨⟩ arrival hmem
    refine hclock arrival ?_
    rw [h.arrivals_eq]
    rcases List.mem_append.mp hmem with hold | hnew
    · exact List.mem_append_left _ (List.mem_append_right _ hold)
    · exact List.mem_append_right _ (List.mem_of_mem_take hnew)

/-- **A complete frame is published whole**, and the next frame begins with nothing.  Its bytes
are consecutive in what has arrived. -/
theorem publish (h : Divided codec past reader raws done current unread) {raw : RawFrame}
    {time : MonoTime} {charge : ℕ} (hcodec : reader.codec = codec)
    (hfits : raw.Fits reader.codec.bound)
    (hbuffer : reader.buffer = raw.bytes) :
    Divided codec
      (past ++ [.published ⟨⟨raw.header.snapshot,
        HsmsSsCodec.interpret reader.codec.decoder raw, time⟩, charge⟩])
      { reader with buffer := [], lastProgress := none } (raws ++ [raw])
      (done ++ current) [] unread := by
  subst hcodec
  refine ⟨?_, ?_, rfl, h.unread_eq, ?_, ?_, fun _ hnone => nomatch hnone⟩
  · rw [arrivals_append, h.arrivals_eq, List.append_nil]
    exact List.append_nil _
  · rw [List.map_append, List.map_append, List.flatten_append, h.done_eq, h.current_eq, hbuffer]
    exact congrArg _ (List.append_nil _).symm
  · intro other hother
    rcases List.mem_append.mp hother with hmem | hmem
    · exact h.fits other hmem
    · rw [List.mem_singleton.mp hmem]
      exact hfits
  · rw [publishedReports_append, List.map_append, List.map_append, h.frames_eq]
    rfl

end Divided

/-! ## The invariant -/

namespace ReaderTask

/-- The task has not ended. -/
def IsLive (task : ReaderTask) : Prop := ∀ result, task.phase ≠ .ended result

/-- Where everything is, and when the current frame was last added to.  It holds of a task at
every point of a step. -/
structure Tracked (codec : HsmsSsCodec) (past : List ReaderTaskEffect) (task : ReaderTask) :
    Prop where
  divided : ∃ raws done current unread,
    Divided codec past task.worker.reader raws done current unread
  past_le : ∀ arrival ∈ arrivals past, arrival.2 ≤ task.clock
  live : task.IsLive → task.worker.reader.Sound ∧ task.worker.reader.codec = codec
  quiet : task.phase.IsReserving → task.worker.reader.buffer = []
  progress : task.worker.reader.lastProgress = none ↔ task.worker.reader.buffer = []

/-- **The invariant of a run**: nothing complete is left in the buffer.  A frame that is complete
has been published, and what is buffered is the current one. -/
structure Paced (codec : HsmsSsCodec) (past : List ReaderTaskEffect) (task : ReaderTask) : Prop
    extends Tracked codec past task where
  incomplete : 0 < lacking codec.bound task.worker.reader.buffer ∨
    ∃ fault, task.phase = .ended (.error (.framing fault)) ∧
      (codec.decode task.worker.reader.buffer).1 = .error fault

/-- **The permits**: every slot, byte and place is free, held by `run`, or held by a report. -/
structure Budgeted (capacity wireBytes : ℕ) (task : ReaderTask) : Prop where
  slots : task.worker.slots + task.phase.slots + task.worker.reports.length + task.held.length =
    capacity
  bytes : task.worker.bytes + task.phase.frames * task.worker.frameBytes +
    ((task.worker.reports ++ task.held).map ReaderReport.bytes).sum = wireBytes
  places : task.worker.room + task.phase.places + task.worker.reports.length = capacity

variable {codec : HsmsSsCodec} {past : List ReaderTaskEffect} {task : ReaderTask}
  {capacity wireBytes : ℕ}

/-- A task that differs from a tracked one in its permits, its reports and its reservation. -/
theorem Tracked.of_reader_eq (h : Tracked codec past task) {other : ReaderTask}
    (hreader : other.worker.reader = task.worker.reader) (hclock : task.clock ≤ other.clock)
    (hlive : other.IsLive → task.IsLive)
    (hquiet : other.phase.IsReserving → task.phase.IsReserving) :
    Tracked codec past other where
  divided := by
    rw [hreader]
    exact h.divided
  past_le arrival hmem := (h.past_le arrival hmem).trans hclock
  live hother := by
    rw [hreader]
    exact h.live (hlive hother)
  quiet hother := by
    rw [hreader]
    exact h.quiet (hquiet hother)
  progress := by
    rw [hreader]
    exact h.progress

/-- The same, with the phase of the tracked task. -/
theorem Paced.of_phase_eq (h : Paced codec past task) {other : ReaderTask}
    (hreader : other.worker.reader = task.worker.reader) (hclock : task.clock ≤ other.clock)
    (hphase : other.phase = task.phase) : Paced codec past other where
  toTracked := by
    refine h.toTracked.of_reader_eq hreader hclock (fun hlive result => ?_) fun hquiet => ?_
    · rw [← hphase]
      exact hlive result
    · rw [← hphase]
      exact hquiet
  incomplete := by
    rw [hreader, hphase]
    exact h.incomplete

theorem Paced.lacks (h : Paced codec past task) (hlive : task.IsLive) :
    0 < lacking codec.bound task.worker.reader.buffer :=
  h.incomplete.resolve_right fun ⟨_, hphase, _⟩ => hlive _ hphase

theorem isLive_of_reading (h : task.phase = .reading) : task.IsLive := by
  intro result
  rw [h]
  exact fun heq => nomatch heq

theorem isLive_of_reserving (h : task.phase.IsReserving) : task.IsLive := by
  intro result heq
  rw [heq] at h
  exact h

/-- What is neither an arrival nor a frame leaves the bytes where they are. -/
theorem Tracked.silent (h : Tracked codec past task) {more : List ReaderTaskEffect}
    (harrivals : arrivals more = []) (hreports : publishedReports more = []) :
    Tracked codec (past ++ more) task where
  divided := by
    obtain ⟨raws, done, current, unread, hdivided⟩ := h.divided
    exact ⟨raws, done, current, unread, hdivided.silent harrivals hreports⟩
  past_le := by
    rw [arrivals_append, harrivals, List.append_nil]
    exact h.past_le
  live := h.live
  quiet := h.quiet
  progress := h.progress

/-- A task that stops keeps its reader. -/
theorem Tracked.stop (h : Tracked codec past task) (result : Except ReadFailure Unit) :
    Tracked codec (past ++ (task.stop result).2) (task.stop result).1 := by
  refine Tracked.of_reader_eq (h.silent rfl rfl) rfl (le_refl _) (fun hlive => ?_) fun hquiet => ?_
  · exact absurd rfl (hlive result)
  · exact hquiet.elim

theorem Budgeted.stop (h : Budgeted capacity wireBytes task) (result : Except ReadFailure Unit) :
    Budgeted capacity wireBytes (task.stop result).1 where
  slots := h.slots
  bytes := by
    show _ + 0 * _ + _ = _
    rw [Nat.zero_mul]
    exact h.bytes
  places := h.places

/-- **What `next` has come to is tracked**: the buffer lacks something, or the task ends, or a frame
is published. -/
theorem Tracked.conclude {mid reader : FrameReader} {result : Option (Except ReadFailure ReadFrame)}
    (h : Tracked codec past (task.withReader mid)) (hphase : task.phase = .reading)
    (hsettles : mid.Settles result reader) :
    Paced codec (past ++ ((task.withReader reader).conclude result).2)
      ((task.withReader reader).conclude result).1 := by
  obtain ⟨hsound, hcodec⟩ := h.live (isLive_of_reading hphase)
  obtain rfl : mid.codec = codec := hcodec
  cases hsettles with
  | waiting hlacks =>
    exact ⟨h.silent rfl rfl, .inl hlacks⟩
  | overflow hlacks => exact ⟨h.stop _, .inl hlacks⟩
  | @framing fault hdecode =>
    obtain ⟨raws, done, current, unread, hdivided⟩ := h.divided
    refine ⟨⟨?_, ?_, fun hlive => absurd rfl (hlive _), fun hquiet => hquiet.elim, h.progress⟩,
      .inr ⟨fault, rfl, hdecode⟩⟩
    · exact ⟨raws, done, current, unread, (hdivided.withCodec _).silent rfl rfl⟩
    · rw [arrivals_append]
      exact fun arrival hmem => h.past_le arrival ((List.mem_append.mp hmem).resolve_right nofun)
  | @frame raw time hfits hbuffer =>
    obtain ⟨raws, done, current, unread, hdivided⟩ := h.divided
    refine ⟨⟨?_, ?_, fun _ => ⟨⟨hsound.running, notPast_nil _⟩, rfl⟩, fun _ => rfl,
      iff_of_true rfl rfl⟩, .inl (Nat.zero_lt_succ 3)⟩
    · exact ⟨_, _, _, _, hdivided.publish rfl hfits hbuffer⟩
    · rw [arrivals_append]
      exact fun arrival hmem => h.past_le arrival ((List.mem_append.mp hmem).resolve_right nofun)

/-- What is read is tracked. -/
theorem Tracked.received (h : Tracked codec past task) (hphase : task.phase = .reading)
    {progress : FrameReadProgress} {want : ℕ}
    (hneeded : progress.needed = lacking task.worker.reader.codec.bound task.worker.reader.buffer)
    (hread : task.worker.reader.read (readAmount progress) want ≠ []) :
    Tracked codec past (task.withReader
      (task.worker.reader.received progress want task.clock)) where
  divided := by
    obtain ⟨raws, done, current, unread, hdivided⟩ := h.divided
    have hreceived : ∃ chunk rest, Divided codec past
        (task.worker.reader.received progress want task.clock) raws done (current ++ chunk) rest :=
      hdivided.read h.past_le
    obtain ⟨chunk, rest, hread⟩ := hreceived
    exact ⟨raws, done, _, rest, hread⟩
  past_le := h.past_le
  live _ := by
    obtain ⟨hsound, hcodec⟩ := h.live (isLive_of_reading hphase)
    exact ⟨(hsound.received hneeded want task.clock).1, hcodec⟩
  quiet hquiet := by
    have hreserving : task.phase.IsReserving := hquiet
    rw [hphase] at hreserving
    exact hreserving.elim
  progress := iff_of_false (fun heq => nomatch heq) fun heq =>
    hread (List.append_eq_nil_iff.mp heq).2

/-- **A wait of `next` is tracked.** -/
theorem Paced.poll (h : Paced codec past task) (hphase : task.phase = .reading) {event : ReadEvent}
    (hnow : ∀ want now, event = .read want now → now = task.clock) :
    Paced codec (past ++ (task.poll [event]).2) (task.poll [event]).1 := by
  obtain ⟨hsound, hcodec⟩ := h.live (isLive_of_reading hphase)
  have hlacks := h.lacks (isLive_of_reading hphase)
  rw [← hcodec] at hlacks
  have hresolves : FrameReader.Resolves _ task.worker.t8 _ _ _ _ :=
    FrameReader.resolves_next hsound hlacks hnow
  unfold ReaderTask.poll
  generalize task.worker.reader.next task.worker.t8 task.clock [event] = polled at hresolves ⊢
  obtain ⟨result, reader, clock, events⟩ := polled
  dsimp only at hresolves ⊢
  cases hresolves with
  | unread hsettles => exact h.toTracked.conclude hphase hsettles
  | read hneeded hread hsettles => exact (h.received hphase hneeded hread).conclude hphase hsettles
  | interrupted hframing htimeout => exact ⟨h.stop _, .inl (h.lacks (isLive_of_reading hphase))⟩

/-- A call without an event is tracked, also a new one. -/
theorem Tracked.poll_nil (h : Tracked codec past task) (hphase : task.phase = .reading) :
    Paced codec (past ++ (task.poll []).2) (task.poll []).1 :=
  h.conclude hphase (FrameReader.settles_next (h.live (isLive_of_reading hphase)).1)

/-! ## What a step does -/

/-- **Everything that a step can do.**  The invariants are proved by cases on this list and never
on the code of the task. -/
inductive Performs (task : ReaderTask) : ReaderTask × List ReaderTaskEffect → Prop where
  | idle : Performs task (task, [])
  | elapsed (now : MonoTime) : Performs task ({ task with clock := max task.clock now }, [])
  | finished : Performs task ({ task with finished := true }, [])
  | arrived (bytes : List UInt8) :
      Performs task (task.withReader
        { task.worker.reader with reader := task.worker.reader.reader ++ bytes },
        bytes.map fun byte => .arrived byte task.clock)
  | slotTaken (hphase : task.phase = .awaitingSlot) (hslots : task.worker.slots ≠ 0) :
      Performs task ({ task with
        worker := { task.worker with slots := task.worker.slots - 1 }
        phase := .awaitingBytes }, [])
  | bytesTaken (hphase : task.phase = .awaitingBytes)
      (hbytes : task.worker.frameBytes ≤ task.worker.bytes) :
      Performs task ({ task with
        worker := { task.worker with bytes := task.worker.bytes - task.worker.frameBytes }
        phase := .awaitingQueue }, [])
  | placeTaken (hphase : task.phase = .awaitingQueue) (hroom : task.worker.room ≠ 0) :
      Performs task (ReaderTask.poll { task with
        worker := { task.worker with room := task.worker.room - 1 }
        phase := .reading } [])
  | retried (hphase : task.phase = .reading) : Performs task (task.poll [])
  | polled {event : ReadEvent} (hphase : task.phase = .reading)
      (hnow : ∀ want now, event = .read want now → now = task.clock)
      (hdue : event = .deadlineElapsed → task.dueDeadline = true) :
      Performs task (task.poll [event])
  | stopped {result : Except ReadFailure Unit} (hlive : task.IsLive)
      (htimeout : result ≠ .error .intercharacterTimeout) : Performs task (task.stop result)
  | received {report : ReaderReport} {reports : List ReaderReport}
      (hreports : task.worker.reports = report :: reports) :
      Performs task ({ task with
        worker := { task.worker with reports := reports, room := task.worker.room + 1 }
        held := task.held ++ [report] }, [])
  | released {index : ℕ} {report : ReaderReport} (hheld : task.held[index]? = some report) :
      Performs task ({ task with
        worker := { task.worker with
          bytes := task.worker.bytes + report.bytes
          slots := task.worker.slots + 1 }
        held := task.held.eraseIdx index }, [])

theorem performs_reserve (task : ReaderTask) : Performs task task.reserve := by
  unfold ReaderTask.reserve
  cases hphase : task.phase with
  | awaitingSlot =>
    dsimp only
    split
    · exact .idle
    · rename_i hslots
      exact .slotTaken hphase hslots
  | awaitingBytes =>
    dsimp only
    split
    · exact .idle
    · rename_i hbytes
      exact .bytesTaken hphase (Nat.not_lt.mp hbytes)
  | awaitingQueue =>
    dsimp only
    split
    · exact .idle
    · rename_i hroom
      exact .placeTaken hphase hroom
  | reading => exact .idle
  | ended result => exact .idle

theorem performs_resolve {event : ReadEvent}
    (hnow : ∀ want now, event = .read want now → now = task.clock)
    (hdue : event = .deadlineElapsed → task.dueDeadline = true) :
    Performs task (task.resolve [event]) := by
  unfold ReaderTask.resolve
  split
  · rename_i hphase
    exact .polled hphase hnow hdue
  · exact .idle

theorem performs_cancel (task : ReaderTask) : Performs task task.cancel := by
  unfold ReaderTask.cancel
  split
  · rename_i hphase
    exact .polled hphase (fun _ _ heq => nomatch heq) fun heq => (nomatch heq)
  · exact .idle
  · rename_i hreading hended
    exact .stopped hended fun heq => nomatch heq

theorem performs_close (task : ReaderTask) : Performs task task.close := by
  unfold ReaderTask.close
  split
  · exact .idle
  · rename_i hended
    exact .stopped hended fun heq => nomatch heq

theorem performs_perform (task : ReaderTask) (input : ReaderTaskInput) :
    Performs task (task.perform input) := by
  cases input with
  | elapse now => exact .elapsed now
  | arrive bytes =>
    show Performs task (task.arrive bytes)
    unfold ReaderTask.arrive
    split
    · exact .idle
    · exact .arrived bytes
  | finish => exact .finished
  | reserve => exact performs_reserve task
  | retry =>
    show Performs task (task.resolve [])
    unfold ReaderTask.resolve
    split
    · rename_i hphase
      exact .retried hphase
    · exact .idle
  | cancelled => exact performs_cancel task
  | closed => exact performs_close task
  | read want =>
    unfold ReaderTask.perform
    dsimp only
    split
    · exact .idle
    · exact performs_resolve (fun _ _ heq => (ReadEvent.read.inj heq).2.symm) fun heq =>
        (nomatch heq)
  | deadlineElapsed =>
    unfold ReaderTask.perform
    dsimp only
    split
    · rename_i hdue
      exact performs_resolve (fun _ _ heq => nomatch heq) fun _ => hdue
    · exact .idle
  | failed kind =>
    exact performs_resolve (fun _ _ heq => nomatch heq) fun heq => (nomatch heq)
  | receive =>
    unfold ReaderTask.perform ReaderTask.receive
    dsimp only
    split
    · exact .idle
    · rename_i hreports
      exact .received hreports
  | release index =>
    unfold ReaderTask.perform ReaderTask.release
    dsimp only
    split
    · exact .idle
    · rename_i hheld
      exact .released hheld

/-- **Every step keeps the bytes tracked.** -/
theorem Paced.performs (h : Paced codec past task) {next : ReaderTask × List ReaderTaskEffect}
    (hnext : Performs task next) : Paced codec (past ++ next.2) next.1 := by
  have hsame : Paced codec (past ++ []) task := by
    rw [List.append_nil]
    exact h
  cases hnext with
  | idle => exact hsame
  | elapsed now => exact hsame.of_phase_eq rfl (le_max_left _ _) rfl
  | finished => exact hsame.of_phase_eq rfl (le_refl _) rfl
  | arrived bytes =>
    obtain ⟨raws, done, current, unread, hdivided⟩ := h.divided
    have harrived := hdivided.arrive bytes task.clock
    refine ⟨⟨⟨raws, done, current, _, harrived⟩, fun arrival hmem => ?_, fun hlive => ?_, h.quiet,
      h.progress⟩, h.incomplete⟩
    · rw [harrived.arrivals_eq, ← List.append_assoc, ← hdivided.arrivals_eq] at hmem
      rcases List.mem_append.mp hmem with hold | hnew
      · exact h.past_le arrival hold
      · obtain ⟨byte, -, rfl⟩ := List.mem_map.mp hnew
        exact le_refl _
    · obtain ⟨hsound, hcodec⟩ := h.live hlive
      exact ⟨⟨hsound.running, hsound.notPast⟩, hcodec⟩
  | slotTaken hphase =>
    have hreserving : task.phase.IsReserving := by rw [hphase]; trivial
    have hlive := isLive_of_reserving hreserving
    exact ⟨hsame.toTracked.of_reader_eq rfl (le_refl _) (fun _ => hlive) fun _ => hreserving,
      .inl (h.lacks hlive)⟩
  | bytesTaken hphase =>
    have hreserving : task.phase.IsReserving := by rw [hphase]; trivial
    have hlive := isLive_of_reserving hreserving
    exact ⟨hsame.toTracked.of_reader_eq rfl (le_refl _) (fun _ => hlive) fun _ => hreserving,
      .inl (h.lacks hlive)⟩
  | placeTaken hphase =>
    have hreserving : task.phase.IsReserving := by rw [hphase]; trivial
    refine Tracked.poll_nil ?_ rfl
    exact h.toTracked.of_reader_eq rfl (le_refl _) (fun _ => isLive_of_reserving hreserving)
      fun hquiet => hquiet.elim
  | retried hphase => exact h.toTracked.poll_nil hphase
  | polled hphase hnow => exact h.poll hphase hnow
  | stopped hlive => exact ⟨h.stop _, .inl (h.lacks hlive)⟩
  | received => exact hsame.of_phase_eq rfl (le_refl _) rfl
  | released => exact hsame.of_phase_eq rfl (le_refl _) rfl

theorem Budgeted.publish (h : Budgeted capacity wireBytes task) (hphase : task.phase = .reading)
    (frame : ReadFrame) : Budgeted capacity wireBytes (task.publish frame).1 := by
  obtain ⟨hslots, hbytes, hplaces⟩ := h
  rw [hphase] at hslots hbytes hplaces
  refine ⟨?_, ?_, ?_⟩
  · show task.worker.slots + 0 + (task.worker.reports ++ [_]).length + task.held.length = _
    rw [← hslots, List.length_append]
    simp only [ReaderPhase.slots, List.length_singleton]
    omega
  · show task.worker.bytes + 0 * task.worker.frameBytes +
      (((task.worker.reports ++ [_]) ++ task.held).map ReaderReport.bytes).sum = _
    rw [← hbytes]
    simp only [ReaderPhase.frames, List.map_append, List.sum_append, List.map_cons, List.map_nil,
      List.sum_cons, List.sum_nil]
    omega
  · show task.worker.room + 0 + (task.worker.reports ++ [_]).length = _
    rw [← hplaces, List.length_append]
    simp only [ReaderPhase.places, List.length_singleton]
    omega

theorem Budgeted.poll (h : Budgeted capacity wireBytes task) (hphase : task.phase = .reading)
    (events : List ReadEvent) : Budgeted capacity wireBytes (task.poll events).1 := by
  unfold ReaderTask.poll
  dsimp only
  generalize task.worker.reader.next task.worker.t8 task.clock events = polled
  have hreader : Budgeted capacity wireBytes (task.withReader polled.reader) := ⟨h.slots, h.bytes,
    h.places⟩
  cases polled.result with
  | none => exact hreader
  | some result =>
    cases result with
    | error failure => exact hreader.stop _
    | ok frame => exact hreader.publish hphase frame

/-- **Every step keeps the permits accounted for.**  What a report holds comes back only when the
consumer drops it. -/
theorem Budgeted.performs (h : Budgeted capacity wireBytes task)
    {next : ReaderTask × List ReaderTaskEffect} (hnext : Performs task next) :
    Budgeted capacity wireBytes next.1 := by
  obtain ⟨hslots, hbytes, hplaces⟩ := h
  cases hnext with
  | idle => exact ⟨hslots, hbytes, hplaces⟩
  | elapsed => exact ⟨hslots, hbytes, hplaces⟩
  | finished => exact ⟨hslots, hbytes, hplaces⟩
  | arrived => exact ⟨hslots, hbytes, hplaces⟩
  | slotTaken hphase hfree =>
    rw [hphase] at hslots hbytes hplaces
    refine ⟨?_, hbytes, hplaces⟩
    simp only [ReaderPhase.slots] at hslots ⊢
    omega
  | bytesTaken hphase hfree =>
    rw [hphase] at hslots hbytes hplaces
    refine ⟨hslots, ?_, hplaces⟩
    simp only [ReaderPhase.frames] at hbytes ⊢
    omega
  | placeTaken hphase hfree =>
    rw [hphase] at hslots hbytes hplaces
    refine Budgeted.poll ⟨hslots, hbytes, ?_⟩ rfl _
    simp only [ReaderPhase.places] at hplaces ⊢
    omega
  | retried hphase => exact Budgeted.poll ⟨hslots, hbytes, hplaces⟩ hphase _
  | polled hphase => exact Budgeted.poll ⟨hslots, hbytes, hplaces⟩ hphase _
  | stopped => exact Budgeted.stop ⟨hslots, hbytes, hplaces⟩ _
  | received hreports =>
    rw [hreports] at hslots hbytes hplaces
    refine ⟨?_, ?_, ?_⟩
    · simp only [List.length_cons, List.length_append, List.length_nil] at hslots ⊢
      omega
    · simp only [List.map_append, List.map_cons, List.sum_append, List.sum_cons, List.map_nil,
        List.sum_nil] at hbytes ⊢
      omega
    · simp only [List.length_cons] at hplaces ⊢
      omega
  | @released index report hheld =>
    obtain ⟨hlt, hget⟩ := List.getElem?_eq_some_iff.mp hheld
    have hsum : report.bytes + ((task.held.eraseIdx index).map ReaderReport.bytes).sum =
        (task.held.map ReaderReport.bytes).sum := by
      have hperm := (List.getElem_cons_eraseIdx_perm hlt).map ReaderReport.bytes
      rw [List.map_cons, hget] at hperm
      exact hperm.sum_eq
    refine ⟨?_, ?_, hplaces⟩
    · simp only [List.length_eraseIdx_of_lt hlt] at hslots ⊢
      omega
    · simp only [List.map_append, List.sum_append] at hbytes ⊢
      omega

/-! ## Runs -/

/-- **T8 runs out only inside a frame, and only when its last byte is that old.** -/
theorem Paced.timeout (h : Paced codec past task) {next : ReaderTask × List ReaderTaskEffect}
    (hnext : Performs task next) {time : MonoTime}
    (hended : .ended (.error .intercharacterTimeout) time ∈ next.2) :
    task.phase = .reading ∧ task.clock = time ∧ ∃ last due,
      task.worker.reader.lastProgress = some last ∧
      last.checkedAdd task.worker.t8 = some due ∧ due ≤ time := by
  have hquiet {mid reader : FrameReader} {result : Option (Except ReadFailure ReadFrame)}
      (hsettles : mid.Settles result reader) (task : ReaderTask) :
      .ended (.error .intercharacterTimeout) time ∉ (task.conclude result).2 := by
    cases hsettles <;> exact fun hmem => by simp [ReaderTask.conclude, ReaderTask.stop,
      ReaderTask.publish] at hmem
  cases hnext with
  | idle => cases hended
  | elapsed => cases hended
  | finished => cases hended
  | arrived bytes =>
    obtain ⟨byte, -, heq⟩ := List.mem_map.mp hended
    cases heq
  | slotTaken => cases hended
  | bytesTaken => cases hended
  | placeTaken hphase hroom =>
    have hlive : task.IsLive := isLive_of_reserving (by rw [hphase]; trivial)
    exact absurd hended (hquiet (FrameReader.settles_next (h.live hlive).1) _)
  | retried hphase =>
    exact absurd hended (hquiet (FrameReader.settles_next (h.live (isLive_of_reading hphase)).1) _)
  | @polled event hphase hnow hdue =>
    obtain ⟨hsound, hcodec⟩ := h.live (isLive_of_reading hphase)
    have hlacks := h.lacks (isLive_of_reading hphase)
    rw [← hcodec] at hlacks
    have hresolves : FrameReader.Resolves _ task.worker.t8 _ _ _ _ :=
      FrameReader.resolves_next hsound hlacks hnow
    unfold ReaderTask.poll at hended
    generalize task.worker.reader.next task.worker.t8 task.clock [event] = polled
      at hresolves hended
    obtain ⟨result, reader, clock, events⟩ := polled
    dsimp only at hresolves hended
    cases hresolves with
    | unread hsettles => exact absurd hended (hquiet hsettles _)
    | read hneeded hread hsettles => exact absurd hended (hquiet hsettles _)
    | @interrupted failure hframing htimeout =>
      obtain ⟨rfl, rfl⟩ : failure = .intercharacterTimeout ∧ time = task.clock := by
        simpa [ReaderTask.conclude, ReaderTask.stop, ReaderTask.withReader, eq_comm] using hended
      obtain ⟨rfl, due, hdeadline⟩ := htimeout rfl
      obtain ⟨last, hlast, hadd⟩ := FrameReader.deadline_eq_some hdeadline
      have hready := hdue rfl
      unfold ReaderTask.dueDeadline at hready
      rw [hdeadline] at hready
      exact ⟨hphase, rfl, last, due, hlast, hadd, of_decide_eq_true hready⟩
  | stopped hlive htimeout =>
    have heq := List.mem_singleton.mp hended
    exact absurd (ReaderTaskEffect.ended.inj heq).1.symm htimeout
  | received => cases hended
  | released => cases hended

/-- A new task. -/
theorem of_new {limits : EndpointLimits} {decoder : DecodeLimits} {t8 : Duration}
    {worker : ReaderWorker}
    (h : ReaderWorker.new limits decoder t8 capacity wireBytes = .ok worker) :
    Paced (.new limits decoder) [] (start worker) ∧ Budgeted capacity wireBytes (start worker) ∧
      worker.t8 = t8 := by
  unfold ReaderWorker.new at h
  split at h
  · cases h
  · split_ifs at h
    obtain rfl := Except.ok.inj h
    refine ⟨⟨⟨⟨[], [], [], [], rfl, rfl, rfl, rfl, nofun, rfl, nofun⟩, nofun,
      fun _ => ?_, fun _ => rfl,
      iff_of_true rfl rfl⟩, .inl (Nat.zero_lt_succ 3)⟩, ⟨rfl, ?_, rfl⟩, rfl⟩
    · exact ⟨FrameReader.sound_new [] limits decoder, rfl⟩
    · show wireBytes + 0 * _ + 0 = wireBytes
      omega

/-- The period of T8 stays. -/
theorem Performs.t8_eq {next : ReaderTask × List ReaderTaskEffect} (hnext : Performs task next) :
    next.1.worker.t8 = task.worker.t8 := by
  have hconclude (task : ReaderTask) (result : Option (Except ReadFailure ReadFrame)) :
      (task.conclude result).1.worker.t8 = task.worker.t8 := by
    rcases result with _ | _ | _ <;> rfl
  cases hnext with
  | placeTaken => exact hconclude _ _
  | retried => exact hconclude _ _
  | polled => exact hconclude _ _
  | _ => rfl

/-- The reservation of a frame stays. -/
theorem Performs.frameBytes_eq {next : ReaderTask × List ReaderTaskEffect}
    (hnext : Performs task next) :
    next.1.worker.frameBytes = task.worker.frameBytes := by
  have hconclude (task : ReaderTask) (result : Option (Except ReadFailure ReadFrame)) :
      (task.conclude result).1.worker.frameBytes = task.worker.frameBytes := by
    rcases result with _ | _ | _ <;> rfl
  cases hnext with
  | placeTaken => exact hconclude _ _
  | retried => exact hconclude _ _
  | polled => exact hconclude _ _
  | _ => rfl

/-- **A reservation goes on while nobody holds a report**: each of its waits is for what is there.
-/
theorem Budgeted.reserves (h : Budgeted capacity wireBytes task) (hcapacity : 0 < capacity)
    (hframe : task.worker.frameBytes ≤ wireBytes) (hreserving : task.phase.IsReserving)
    (hreports : task.worker.reports = []) (hheld : task.held = []) :
    task.reserve.1.phase ≠ task.phase := by
  have hslots := h.slots
  have hbytes := h.bytes
  have hplaces := h.places
  rw [hreports, hheld] at hslots hbytes
  rw [hreports] at hplaces
  unfold reserve
  cases hphase : task.phase with
  | awaitingSlot =>
    rw [hphase] at hslots
    dsimp only [ReaderPhase.slots, List.length_nil] at hslots ⊢
    rw [if_neg (by omega)]
    nofun
  | awaitingBytes =>
    rw [hphase] at hbytes
    have hfree : task.worker.bytes = wireBytes := by simpa [ReaderPhase.frames] using hbytes
    dsimp only
    rw [if_neg (by omega)]
    nofun
  | awaitingQueue =>
    rw [hphase] at hplaces
    dsimp only [ReaderPhase.places, List.length_nil] at hplaces ⊢
    rw [if_neg (by omega)]
    have hconclude (task : ReaderTask) (hreading : task.phase = .reading)
        (result : Option (Except ReadFailure ReadFrame)) :
        (task.conclude result).1.phase ≠ .awaitingQueue := by
      rcases result with _ | failure | frame
      · rw [show (task.conclude none).1 = task from rfl, hreading]
        nofun
      · nofun
      · nofun
    exact hconclude _ rfl _
  | reading =>
    rw [hphase] at hreserving
    exact hreserving.elim
  | ended result =>
    rw [hphase] at hreserving
    exact hreserving.elim

theorem machine_paced {limits : EndpointLimits} {decoder : DecodeLimits} {t8 : Duration}
    {worker : ReaderWorker} (h : ReaderWorker.new limits decoder t8 capacity wireBytes = .ok worker)
    (inputs : List ReaderTaskInput) :
    Paced (.new limits decoder) (machine.history (start worker) inputs)
        (machine.after (start worker) inputs) ∧
      Budgeted capacity wireBytes (machine.after (start worker) inputs) ∧
      (machine.after (start worker) inputs).worker.t8 = t8 := by
  obtain ⟨hpaced, hbudgeted, ht8⟩ := of_new h
  refine machine.invariant_history
    (I := fun past task => Paced (.new limits decoder) past task ∧
      Budgeted capacity wireBytes task ∧ task.worker.t8 = t8) ?_ ⟨hpaced, hbudgeted, ht8⟩ inputs
  rintro past task input ⟨hpaced, hbudgeted, ht8⟩
  have hnext := performs_perform task input
  exact ⟨hpaced.performs hnext, hbudgeted.performs hnext, hnext.t8_eq.trans ht8⟩

/-- **T8 measures silence inside a frame, and pressure pauses between frames.**  Whatever happens to
the task: it ends with a T8 timeout only while it lacks a part of a frame of which it has received
something, and all of that arrived a whole T8 earlier; where it waits for capacity it holds nothing
and T8 is not armed; every complete frame that it has received is published, in order; and the
reports that are not consumed stay within the slots and the bytes. -/
theorem reader_task_paces {limits : EndpointLimits} {decoder : DecodeLimits} {t8 : Duration}
    {worker : ReaderWorker} (h : ReaderWorker.new limits decoder t8 capacity wireBytes = .ok worker)
    (inputs : List ReaderTaskInput) :
    let task := machine.after (start worker) inputs
    let past := machine.history (start worker) inputs
    let codec := HsmsSsCodec.new limits decoder
    (∀ input time, .ended (.error .intercharacterTimeout) time ∈ (machine.step task input).2 →
      0 < lacking limits.maxMessageLength task.worker.reader.buffer ∧
      ∃ done current unread, arrivals past = done ++ current ++ unread ∧ current ≠ [] ∧
        current.map Prod.fst = task.worker.reader.buffer ∧
        unread.map Prod.fst = task.worker.reader.reader ∧
        ∀ arrival ∈ current, arrival.2.nanos + t8.nanos ≤ time.nanos) ∧
    (task.phase.IsReserving →
      task.worker.reader.buffer = [] ∧ task.worker.reader.deadline t8 = .ok none) ∧
    (∃ raws : List RawFrame, (∀ raw ∈ raws, raw.Fits limits.maxMessageLength) ∧
      (publishedReports past).map (fun report => FrameReader.decodedFrame report.frame) =
        raws.map (fun raw => (some raw.header.snapshot, HsmsSsCodec.interpret decoder raw)) ∧
      (arrivals past).map Prod.fst = (raws.map RawFrame.bytes).flatten ++
        task.worker.reader.buffer ++ task.worker.reader.reader ∧
      ∀ step after rest, codec.decode task.worker.reader.buffer = (.ok step, after, rest) →
        ¬ step.IsComplete) ∧
    (task.worker.reports ++ task.held).length ≤ capacity ∧
    ((task.worker.reports ++ task.held).map ReaderReport.bytes).sum ≤ wireBytes := by
  intro task past codec
  obtain ⟨hpaced, hbudgeted, ht8⟩ :
      Paced codec past task ∧ Budgeted capacity wireBytes task ∧ task.worker.t8 = t8 :=
    machine_paced h inputs
  obtain ⟨raws, done, current, unread, hdivided⟩ := hpaced.divided
  refine ⟨fun input time hended => ?_, fun hreserving => ?_,
    ⟨raws, hdivided.fits, hdivided.frames_eq, ?_,
    fun step after rest hdecode hcomplete => ?_⟩, ?_, ?_⟩
  · obtain ⟨hphase, rfl, last, due, hlast, hadd, hdue⟩ :=
      hpaced.timeout (performs_perform task input) hended
    refine ⟨hpaced.lacks (isLive_of_reading hphase), done, current, unread, hdivided.arrivals_eq,
      fun hnil => ?_, hdivided.current_eq, hdivided.unread_eq, fun arrival hmem => ?_⟩
    · have hbuffer := hdivided.current_eq
      rw [hnil] at hbuffer
      rw [hpaced.progress.mpr hbuffer.symm] at hlast
      cases hlast
    · have harrival : arrival.2.nanos ≤ last.nanos := hdivided.early last hlast arrival hmem
      rw [ht8] at hadd
      have hsum : last.nanos + t8.nanos = due.nanos := by
        unfold MonoTime.checkedAdd at hadd
        split at hadd
        · rw [← Option.some.inj hadd]
          rfl
        · cases hadd
      exact (Nat.add_le_add_right harrival _).trans (hsum.le.trans hdue)
  · have hbuffer := hpaced.quiet hreserving
    refine ⟨hbuffer, ?_⟩
    unfold FrameReader.deadline
    rw [hpaced.progress.mpr hbuffer]
  · rw [hdivided.arrivals_eq, List.map_append, List.map_append, hdivided.done_eq,
      hdivided.current_eq, hdivided.unread_eq]
  · rcases hpaced.incomplete with hlacks | ⟨fault, -, hfault⟩
    · obtain ⟨progress, hneeds, -⟩ :=
        HsmsSsCodec.decode_of_lacking (HsmsSsCodec.running_new limits decoder) hlacks
      rw [hneeds] at hdecode
      rw [← Except.ok.inj (Prod.mk.inj hdecode).1] at hcomplete
      exact hcomplete
    · rw [hdecode] at hfault
      cases hfault
  · have hslots := hbudgeted.slots
    rw [List.length_append]
    omega
  · have hbytes := hbudgeted.bytes
    omega

/-- The task of the default configuration. -/
def defaultWorker : ReaderWorker where
  reader := .new [] .default .default
  reports := []
  room := 1
  bytes := RuntimePolicy.default.inboundBytes
  slots := 1
  frameBytes := EndpointLimits.default.maxMessageLength + 4
  t8 := HsmsTimeouts.default.t8

theorem new_default : ReaderWorker.new .default .default HsmsTimeouts.default.t8 1
    RuntimePolicy.default.inboundBytes = .ok defaultWorker := rfl

/-- One byte of a frame arrives and is read, and then nothing for a whole T8. -/
def silence : List ReaderTaskInput :=
  [.arrive [0], .reserve, .reserve, .reserve, .read 1, .elapse ⟨HsmsTimeouts.default.t8⟩]

/-- How the task has ended, and when. -/
def endings (effects : List ReaderTaskEffect) : List (Except ReadFailure Unit × MonoTime) :=
  effects.filterMap fun
    | .ended result time => some (result, time)
    | _ => none

theorem mem_of_mem_endings {effects : List ReaderTaskEffect} {result : Except ReadFailure Unit}
    {time : MonoTime} (h : (result, time) ∈ endings effects) : .ended result time ∈ effects := by
  obtain ⟨effect, hmem, heq⟩ := List.mem_filterMap.mp h
  cases effect with
  | ended other clock =>
    obtain ⟨rfl, rfl⟩ := Prod.mk.inj (Option.some.inj heq)
    exact hmem
  | arrived => cases heq
  | published => cases heq

/-- After this silence T8 runs out, and nothing has been published. -/
theorem reader_task_paces_silence :
    let task := machine.after (start defaultWorker) silence
    .ended (.error .intercharacterTimeout) ⟨HsmsTimeouts.default.t8⟩ ∈
        (machine.step task .deadlineElapsed).2 ∧
      0 < lacking EndpointLimits.default.maxMessageLength task.worker.reader.buffer ∧
      (task.worker.reports ++ task.held).length ≤ 1 := by
  intro task
  have hended : .ended (.error .intercharacterTimeout) ⟨HsmsTimeouts.default.t8⟩ ∈
      (machine.step task .deadlineElapsed).2 := by
    refine mem_of_mem_endings (List.mem_of_getElem? (i := 0) ?_)
    decide +kernel
  have hpaces := reader_task_paces new_default silence
  exact ⟨hended, (hpaces.1 _ _ hended).1, hpaces.2.2.2.1⟩

end ReaderTask

end Hsms
end SecsRust
