import SecsRust.Hsms.Generation.Transport.Writer

/-!
# The writer task

`write_frame` of `hsms/generation/transport/io.rs` and `WriterWorker::run` of
`bounded_writer.rs`: the frames of the FIFO are written one after another, each up to a
deadline, until one fails.

The transport may accept any part of what it is offered, or fail, and the task may be
cancelled at any point. Whoever has queued a frame learns its fate from a report: committed,
not written, or indeterminate. The report of a failed write is the delicate one.  If any
byte of the frame has been accepted the peer may have seen it, and only if none has may the
frame be called not written.

`Accounts` is what an outcome says about the bytes of its frame, and `writeFrame_accounts`
shows that it is true, by induction over the waits with the offset as a parameter: the frame
has been accepted up to the offset when the loop is entered with it.  `RunAccounts` extends
it to a run, one frame after the other, and after the first failure nothing more is written
(`runWorker_terminal`).

A run that is given too few waits has not come to its end, and reports fewer frames than are
queued. `enoughWaits` bounds how many waits it can need, one for the FIFO and one for each
byte, and `length_reports` shows that every frame is then reported.
`reports_account_for_bytes` puts it together: the transport has accepted the committed
frames and a part of at most one other frame, which is then reported as indeterminate.
-/

namespace SecsRust
namespace Hsms

/-- What resolves one wait of the task.  Where it waits for the FIFO, everything but cancellation is
the next entry, or the end of admissions. -/
inductive WaitEvent where
  | cancelled
  | completed (count : ℕ)
  | failed (kind : TransportFaultKind)
  deriving DecidableEq

/-- A wait of the task, resolved at this time. -/
structure Wait where
  now : MonoTime
  event : WaitEvent

/-- `failed_write`: only where no byte has been accepted can the frame be called not written. -/
def failedWrite (offset : ℕ) (fault : TransportFault) : WriteOutcome :=
  if offset = 0 then .notWritten fault else .indeterminate fault

/-- What writing a frame has come to: the outcome, unless the task still waits; what the transport
has accepted; the time; and the waits that were not used. -/
structure Written where
  outcome : Option WriteOutcome
  accepted : List UInt8
  clock : MonoTime
  waits : List Wait

/-- `write_frame` from an offset on.  Cancellation comes before the deadline, and the deadline
before what the transport does. -/
def writeFrame (frame : List UInt8) (deadline : MonoTime) (offset : ℕ) (clock : MonoTime)
    (waits : List Wait) : Written :=
  if offset < frame.length then
    match waits with
    | [] => ⟨none, [], clock, []⟩
    | ⟨now, .cancelled⟩ :: waits => ⟨some (failedWrite offset ⟨.cancelled⟩), [], now, waits⟩
    | ⟨now, .failed kind⟩ :: waits =>
      let fault := if deadline ≤ now then .timedOut else kind
      ⟨some (failedWrite offset ⟨fault⟩), [], now, waits⟩
    | ⟨now, .completed count⟩ :: waits =>
      if deadline ≤ now then ⟨some (failedWrite offset ⟨.timedOut⟩), [], now, waits⟩
      else
        let written := (frame.drop offset).take count
        if written.isEmpty then ⟨some (failedWrite offset ⟨.writeZero⟩), [], now, waits⟩
        else
          let rest := writeFrame frame deadline (offset + written.length) now waits
          { rest with accepted := written ++ rest.accepted }
  else ⟨some .committed, [], clock, waits⟩
termination_by structural waits

/-- `WriterReport`: the fate of one frame and when it was decided.  It keeps the charge of the
frame. -/
structure WriterReport where
  writeId : WriteId
  outcome : WriteOutcome
  occurredAt : MonoTime
  charge : Charge

/-- The fault of a write that has not been committed. -/
def WriteOutcome.fault : WriteOutcome → Option TransportFault
  | committed => none
  | notWritten fault | indeterminate fault => some fault

/-- What a run of the task has come to: its reports, and everything that the transport has accepted.
-/
structure WorkerRun where
  reports : List WriterReport
  accepted : List UInt8

/-- One more report, and the bytes that were accepted before. -/
def WorkerRun.cons (report : WriterReport) (accepted : List UInt8) (run : WorkerRun) : WorkerRun :=
  ⟨report :: run.reports, accepted ++ run.accepted⟩

/-- The report of an entry, which takes over its charge. -/
def QueuedFrame.report (entry : QueuedFrame) (outcome : WriteOutcome) (occurredAt : MonoTime) :
    WriterReport :=
  ⟨entry.writeId, outcome, occurredAt, entry.charge⟩

/-- What an outcome says about the bytes of a frame that the transport has accepted.  Without an
outcome the frame is still being written. -/
def Accounts (frame accepted : List UInt8) : Option WriteOutcome → Prop
  | some .committed => accepted = frame
  | some (.notWritten _) => accepted = []
  | some (.indeterminate _) => accepted ≠ [] ∧ accepted <+: frame ∧ accepted ≠ frame
  | none => accepted <+: frame ∧ accepted ≠ frame

/-- A failed write tells whether anything has been accepted before. -/
theorem accounts_failedWrite {frame : List UInt8} {offset : ℕ} (h : offset < frame.length)
    (fault : TransportFault) : Accounts frame (frame.take offset)
    (some (failedWrite offset fault)) := by
  have hlength : (frame.take offset).length = offset := List.length_take_of_le h.le
  unfold failedWrite
  split
  · rename_i hzero
    rw [hzero]
    exact List.take_zero
  · rename_i hpositive
    refine ⟨fun hempty => hpositive ?_, List.take_prefix _ _, fun hall => ?_⟩
    · rw [← hlength, hempty, List.length_nil]
    · rw [hall] at hlength
      omega

/-- What has been accepted after another part of a frame. -/
theorem take_append_take_drop (frame : List UInt8) (offset count : ℕ) :
    frame.take offset ++ (frame.drop offset).take count =
      frame.take (offset + ((frame.drop offset).take count).length) := by
  rw [List.take_add, List.length_take]
  congr 1
  rcases Nat.le_total count (frame.drop offset).length with h | h
  · rw [Nat.min_eq_left h]
  · rw [Nat.min_eq_right h, List.take_length, List.take_of_length_le h]

/-- **The outcome of a frame accounts for its bytes**, and one wait for each of them is enough. -/
theorem writeFrame_accounts {frame : List UInt8} (deadline : MonoTime) (offset : ℕ)
    (clock : MonoTime)
    (waits : List Wait) (hoffset : offset ≤ frame.length) :
    Accounts frame (frame.take offset ++ (writeFrame frame deadline offset clock waits).accepted)
        (writeFrame frame deadline offset clock waits).outcome ∧
      (writeFrame frame deadline offset clock waits).waits.length ≤ waits.length ∧
      (frame.length - offset ≤ waits.length →
        (writeFrame frame deadline offset clock waits).outcome ≠ none ∧
        waits.length ≤ (writeFrame frame deadline offset clock waits).waits.length +
          (frame.length - offset)) := by
  induction waits generalizing offset clock with
  | nil =>
    unfold writeFrame
    split
    · rename_i h
      dsimp only
      rw [List.append_nil]
      refine ⟨⟨List.take_prefix _ _, fun hall => ?_⟩, Nat.le_refl _, fun hwaits => ?_⟩
      · have hlength := congrArg List.length hall
        rw [List.length_take_of_le hoffset] at hlength
        omega
      · rw [List.length_nil] at hwaits
        omega
    · rename_i h
      dsimp only
      rw [List.append_nil, List.take_of_length_le (Nat.not_lt.mp h)]
      exact ⟨rfl, Nat.le_refl _, fun _ => ⟨Option.some_ne_none _, Nat.le_add_right _ _⟩⟩
  | cons wait waits ih =>
    obtain ⟨now, event⟩ := wait
    by_cases h : offset < frame.length
    · have hfailed (fault : TransportFault) : Accounts frame (frame.take offset ++ [])
          (some (failedWrite offset fault)) := by
        rw [List.append_nil]
        exact accounts_failedWrite h fault
      have hone : (⟨now, event⟩ :: waits : List Wait).length ≤
          waits.length + (frame.length - offset) := by
        rw [List.length_cons]
        omega
      unfold writeFrame
      rw [if_pos h]
      cases event with
      | cancelled => exact ⟨hfailed _, Nat.le_succ _, fun _ => ⟨Option.some_ne_none _, hone⟩⟩
      | failed kind => exact ⟨hfailed _, Nat.le_succ _, fun _ => ⟨Option.some_ne_none _, hone⟩⟩
      | completed count =>
        dsimp only
        split
        · exact ⟨hfailed _, Nat.le_succ _, fun _ => ⟨Option.some_ne_none _, hone⟩⟩
        · split
          · exact ⟨hfailed _, Nat.le_succ _, fun _ => ⟨Option.some_ne_none _, hone⟩⟩
          · rename_i hwritten
            have hpositive := List.length_pos_iff.mpr (mt List.isEmpty_iff.mpr hwritten)
            have hbound : ((frame.drop offset).take count).length ≤ frame.length - offset := by
              rw [← List.length_drop]
              exact List.length_take_le' _ _
            obtain ⟨haccounts, hwaits, henough⟩ :=
              ih (offset + ((frame.drop offset).take count).length) now (by omega)
            dsimp only
            rw [← List.append_assoc, take_append_take_drop]
            refine ⟨haccounts, hwaits.trans (Nat.le_succ _), fun hlength => ?_⟩
            rw [List.length_cons] at hlength ⊢
            obtain ⟨hsome, hleft⟩ := henough (by omega)
            exact ⟨hsome, by omega⟩
    · unfold writeFrame
      rw [if_neg h]
      dsimp only
      rw [List.append_nil, List.take_of_length_le (Nat.not_lt.mp h)]
      exact ⟨rfl, Nat.le_refl _, fun _ => ⟨Option.some_ne_none _, Nat.le_add_right _ _⟩⟩

/-- `WriterWorker::run` on everything that is admitted, while the reports are consumed. -/
def runWorker (policy : WriterPolicy) (terminal : Option TransportFault) (clock : MonoTime)
    (queue : List QueuedFrame) (waits : List Wait) : WorkerRun :=
  match terminal, queue, waits with
  | some _, [], _ => ⟨[], []⟩
  | some fault, entry :: queue, waits =>
    (runWorker policy (some fault) clock queue waits).cons
      (entry.report (.notWritten fault) clock) []
  | none, _, [] => ⟨[], []⟩
  | none, queue, ⟨now, .cancelled⟩ :: waits => runWorker policy (some ⟨.cancelled⟩) now queue waits
  | none, [], _ :: _ => ⟨[], []⟩
  | none, entry :: queue, ⟨now, _⟩ :: waits =>
    match now.checkedAdd policy.activeWrite with
    | none =>
      (runWorker policy (some ⟨.timedOut⟩) now queue waits).cons
        (entry.report (.notWritten ⟨.timedOut⟩) now) []
    | some activeDeadline =>
      let written := writeFrame entry.bytes (min entry.deadline activeDeadline) 0 now waits
      match written.outcome with
      | none => ⟨[], written.accepted⟩
      | some outcome =>
        (runWorker policy outcome.fault written.clock queue written.waits).cons
          (entry.report outcome written.clock) written.accepted
termination_by queue.length + waits.length
decreasing_by
  · exact Nat.add_lt_add_right (Nat.lt_succ_self _) _
  · exact Nat.add_lt_add_left (Nat.lt_succ_self _) _
  · exact Nat.add_lt_add (Nat.lt_succ_self _) (Nat.lt_succ_self _)
  · refine Nat.add_lt_add (Nat.lt_succ_self _) (Nat.lt_succ_of_le ?_)
    exact (writeFrame_accounts _ 0 now waits (Nat.zero_le _)).2.1

/-! ## What the reports say -/

variable {policy : WriterPolicy} {terminal : Option TransportFault} {clock : MonoTime}
  {queue : List QueuedFrame} {waits : List Wait}

/-- After a failure nothing more is written. -/
theorem runWorker_terminal (fault : TransportFault) :
    runWorker policy (some fault) clock queue waits =
      ⟨queue.map fun entry => entry.report (.notWritten fault) clock, []⟩ := by
  induction queue with
  | nil => rw [runWorker, List.map_nil]
  | cons entry queue ih =>
    rw [runWorker, ih]
    rfl

/-- The reports of a run account for the bytes that the transport has accepted.  Each report says
something about the bytes of its own frame, and the run adds them up in order. -/
inductive RunAccounts : List QueuedFrame → WorkerRun → Prop where
  | idle (queue : List QueuedFrame) : RunAccounts queue ⟨[], []⟩
  | writing {entry : QueuedFrame} {queue : List QueuedFrame} {accepted : List UInt8}
      (h : Accounts entry.bytes accepted none) : RunAccounts (entry :: queue) ⟨[], accepted⟩
  | committed {entry : QueuedFrame} {queue : List QueuedFrame} {run : WorkerRun}
      (occurredAt : MonoTime) (rest : RunAccounts queue run) :
      RunAccounts (entry :: queue) (run.cons (entry.report .committed occurredAt) entry.bytes)
  | failed {entry : QueuedFrame} {queue : List QueuedFrame} {outcome : WriteOutcome}
      {fault : TransportFault} {accepted : List UInt8} (occurredAt : MonoTime)
      (hfault : outcome.fault = some fault) (h : Accounts entry.bytes accepted (some outcome)) :
      RunAccounts (entry :: queue) ⟨entry.report outcome occurredAt ::
        queue.map fun entry => entry.report (.notWritten fault) occurredAt, accepted⟩
  | refused (fault : TransportFault) (occurredAt : MonoTime) (queue : List QueuedFrame) :
      RunAccounts queue ⟨queue.map fun entry => entry.report (.notWritten fault) occurredAt, []⟩

/-- Without entries there is nothing to report. -/
theorem runWorker_nil : runWorker policy none clock [] waits = ⟨[], []⟩ := by
  cases waits with
  | nil => rw [runWorker]
  | cons wait waits =>
    obtain ⟨now, event⟩ := wait
    cases event with
    | cancelled => rw [runWorker, runWorker_terminal, List.map_nil]
    | completed count => rw [runWorker]; exact fun _ h => nomatch h
    | failed kind => rw [runWorker]; exact fun _ h => nomatch h

/-- One entry, once the FIFO has handed it out. -/
def runEntry (policy : WriterPolicy) (now : MonoTime) (entry : QueuedFrame)
    (queue : List QueuedFrame) (waits : List Wait) : WorkerRun :=
  match now.checkedAdd policy.activeWrite with
  | none =>
    (runWorker policy (some ⟨.timedOut⟩) now queue waits).cons
      (entry.report (.notWritten ⟨.timedOut⟩) now) []
  | some activeDeadline =>
    let written := writeFrame entry.bytes (min entry.deadline activeDeadline) 0 now waits
    match written.outcome with
    | none => ⟨[], written.accepted⟩
    | some outcome =>
      (runWorker policy outcome.fault written.clock queue written.waits).cons
        (entry.report outcome written.clock) written.accepted

/-- A run that has not failed is cancelled, or goes on with its first entry. -/
theorem runWorker_cons (policy : WriterPolicy) (clock now : MonoTime) (entry : QueuedFrame)
    (queue : List QueuedFrame) (event : WaitEvent) (waits : List Wait) :
    runWorker policy none clock (entry :: queue) (⟨now, event⟩ :: waits) =
      if event = .cancelled then
        ⟨(entry :: queue).map fun entry => entry.report (.notWritten ⟨.cancelled⟩) now, []⟩
      else runEntry policy now entry queue waits := by
  cases event with
  | cancelled => rw [runWorker, runWorker_terminal, if_pos rfl]
  | completed count =>
    rw [runWorker, if_neg (fun h => nomatch h)]
    · rfl
    · exact fun h => nomatch h
  | failed kind =>
    rw [runWorker, if_neg (fun h => nomatch h)]
    · rfl
    · exact fun h => nomatch h

/-- **The reports of every run account for the bytes.**  It goes by induction over the queue,
with the account of one frame at each step. -/
theorem runWorker_accounts (policy : WriterPolicy) (clock : MonoTime) (queue : List QueuedFrame)
    (waits : List Wait) : RunAccounts queue (runWorker policy none clock queue waits) := by
  induction queue generalizing clock waits with
  | nil =>
    rw [runWorker_nil]
    exact .idle []
  | cons entry queue ih =>
    cases waits with
    | nil =>
      rw [runWorker]
      exact .idle _
    | cons wait waits =>
      obtain ⟨now, event⟩ := wait
      rw [runWorker_cons]
      split
      · exact .refused _ now _
      · unfold runEntry
        split
        · rw [runWorker_terminal]
          exact .failed now rfl rfl
        · rename_i activeDeadline hdeadline
          have haccounts := (writeFrame_accounts (min entry.deadline activeDeadline) 0 now waits
            (Nat.zero_le entry.bytes.length)).1
          rw [List.take_zero, List.nil_append] at haccounts
          dsimp only
          generalize writeFrame entry.bytes (min entry.deadline activeDeadline) 0 now waits =
            written at haccounts
          split
          · rename_i houtcome
            exact .writing (houtcome ▸ haccounts)
          · rename_i outcome houtcome
            rw [houtcome] at haccounts
            cases hfault : outcome.fault with
            | some fault =>
              rw [runWorker_terminal, WorkerRun.cons, List.append_nil]
              exact .failed written.clock hfault haccounts
            | none =>
              cases outcome with
              | notWritten fault => cases hfault
              | indeterminate fault => cases hfault
              | committed =>
                have hall : written.accepted = entry.bytes := haccounts
                rw [hall]
                exact .committed written.clock (ih written.clock written.waits)

/-- How many waits are enough for every entry: one for the FIFO and one for each byte. -/
def enoughWaits (queue : List QueuedFrame) :
    ℕ := (queue.map fun entry => entry.bytes.length + 1).sum

/-- **With enough waits every entry is reported.**  Every wait makes progress, by a byte or by an
entry, or it ends the run. -/
theorem length_reports (policy : WriterPolicy) (clock : MonoTime) {queue : List QueuedFrame}
    {waits : List Wait} (h : enoughWaits queue ≤ waits.length) :
    (runWorker policy none clock queue waits).reports.length = queue.length := by
  induction queue generalizing clock waits with
  | nil => rw [runWorker_nil, List.length_nil, List.length_nil]
  | cons entry queue ih =>
    have hsum : enoughWaits (entry :: queue) = entry.bytes.length + 1 + enoughWaits queue := by
      unfold enoughWaits
      rw [List.map_cons, List.sum_cons]
    cases waits with
    | nil =>
      rw [hsum, List.length_nil] at h
      omega
    | cons wait waits =>
      obtain ⟨now, event⟩ := wait
      rw [List.length_cons] at h
      rw [runWorker_cons]
      split
      · exact List.length_map _
      · unfold runEntry
        split
        · rw [runWorker_terminal, WorkerRun.cons, List.length_cons, List.length_map,
            List.length_cons]
        · rename_i activeDeadline hdeadline
          obtain ⟨-, -, henough⟩ :=
            writeFrame_accounts (min entry.deadline activeDeadline) 0 now waits
            (Nat.zero_le entry.bytes.length)
          obtain ⟨hsome, hleft⟩ := henough (by omega)
          dsimp only
          generalize writeFrame entry.bytes (min entry.deadline activeDeadline) 0 now waits =
            written at hsome hleft
          split
          · exact absurd ‹_› hsome
          · rename_i outcome houtcome
            rw [WorkerRun.cons, List.length_cons, List.length_cons]
            refine congrArg Nat.succ ?_
            cases outcome.fault with
            | some fault => rw [runWorker_terminal, List.length_map]
            | none => exact ih written.clock (by omega)

/-- The entries of a run fall into those that were committed and those that were not, and the bytes
that were accepted with them. -/
def Divides (queue : List QueuedFrame) (run : WorkerRun) (done rest : List QueuedFrame)
    (committed later : List WriterReport) (part : List UInt8) : Prop :=
  queue = done ++ rest ∧ run.reports = committed ++ later ∧ committed.length = done.length ∧
    (∀ report ∈ committed, report.outcome = .committed) ∧
    run.accepted = done.flatMap QueuedFrame.bytes ++ part ∧
    match later, rest with
    | [], [] => part = []
    | [], entry :: _ => part <+: entry.bytes ∧ (part = entry.bytes → part = [])
    | _ :: _, [] => False
    | report :: refused, entry :: _ =>
      (∀ report ∈ refused, ∃ fault, report.outcome = .notWritten fault) ∧
        ((∃ fault, report.outcome = .notWritten fault ∧ part = []) ∨
          ∃ fault, report.outcome = .indeterminate fault ∧ part ≠ [] ∧ part <+: entry.bytes ∧
            part ≠ entry.bytes)

namespace RunAccounts

variable {run : WorkerRun}

/-- Entries are reported in their order. -/
theorem ids_initial (h : RunAccounts queue run) :
    run.reports.map WriterReport.writeId <+: queue.map QueuedFrame.writeId := by
  have hrefused (fault : TransportFault) (occurredAt : MonoTime) (queue : List QueuedFrame) :
      (queue.map fun entry => entry.report (.notWritten fault) occurredAt).map
        WriterReport.writeId = queue.map QueuedFrame.writeId := by
    rw [List.map_map]
    rfl
  induction h with
  | idle queue => exact List.nil_prefix
  | writing h => exact List.nil_prefix
  | committed occurredAt rest ih => exact (List.prefix_cons_inj _).mpr ih
  | failed occurredAt hfault h =>
    rw [List.map_cons, hrefused]
    exact List.prefix_rfl
  | refused fault occurredAt queue =>
    rw [hrefused]

theorem refused_notWritten (fault : TransportFault) (occurredAt : MonoTime)
    (queue : List QueuedFrame) :
    ∀ report ∈ queue.map fun entry => entry.report (.notWritten fault) occurredAt,
      ∃ fault, report.outcome = .notWritten fault := by
  intro report hreport
  obtain ⟨entry, -, rfl⟩ := List.mem_map.mp hreport
  exact ⟨fault, rfl⟩

/-- **An account divides the entries.**  Those that were committed come first, then at most one
of which a part was accepted, then those of which nothing was. -/
theorem exists_divides (h : RunAccounts queue run) :
    ∃ done rest committed later part, Divides queue run done rest committed later part := by
  induction h with
  | idle queue =>
    refine ⟨[], queue, [], [], [], rfl, rfl, rfl, List.forall_mem_nil _, rfl, ?_⟩
    cases queue with
    | nil => rfl
    | cons entry queue => exact ⟨List.nil_prefix, fun _ => rfl⟩
  | @writing entry queue accepted h =>
    exact ⟨[], entry :: queue, [], [], accepted, rfl, rfl, rfl, List.forall_mem_nil _, rfl, h.1,
      fun hall => absurd hall h.2⟩
  | @committed entry queue run occurredAt _ ih =>
    obtain ⟨done, rest, committed, later, part, hqueue, hreports, hlength, hall,
      haccepted, hpart⟩ := ih
    refine ⟨entry :: done, rest, entry.report .committed occurredAt :: committed, later, part,
      congrArg (List.cons entry) hqueue, congrArg (List.cons _) hreports, congrArg Nat.succ hlength,
      List.forall_mem_cons.mpr ⟨rfl, hall⟩, ?_, hpart⟩
    rw [List.flatMap_cons, List.append_assoc, ← haccepted]
    rfl
  | @failed entry queue outcome fault accepted occurredAt hfault h =>
    refine ⟨[], entry :: queue, [], _, accepted, rfl, rfl, rfl, List.forall_mem_nil _, rfl,
      refused_notWritten fault occurredAt queue, ?_⟩
    cases outcome with
    | committed => cases hfault
    | notWritten fault => exact .inl ⟨fault, rfl, h⟩
    | indeterminate fault => exact .inr ⟨fault, rfl, h⟩
  | refused fault occurredAt queue =>
    refine ⟨[], queue, [], _, [], rfl, rfl, rfl, List.forall_mem_nil _, rfl, ?_⟩
    cases queue with
    | nil => rfl
    | cons entry queue =>
      exact ⟨refused_notWritten fault occurredAt queue, .inl ⟨fault, rfl, rfl⟩⟩

end RunAccounts

/-- **The writer's reports are a faithful account of the byte stream.**  Frames are reported once
each in the order of admission, all of them if the task does not stop waiting.  Those that are
reported as committed come first, and the transport has accepted all of their bytes and then a
proper part of at most one frame: of the frame reported as indeterminate, if there is one.  A frame
that is reported as not written has contributed nothing, and after a frame that was not committed
none is written. -/
theorem reports_account_for_bytes (policy : WriterPolicy) (clock : MonoTime)
    (queue : List QueuedFrame) (waits : List Wait) :
    let run := runWorker policy none clock queue waits
    (run.reports.map WriterReport.writeId <+: queue.map QueuedFrame.writeId) ∧
    (enoughWaits queue ≤ waits.length →
      run.reports.map WriterReport.writeId = queue.map QueuedFrame.writeId) ∧
    ∃ done rest committed later part, Divides queue run done rest committed later part := by
  intro run
  have haccounts := runWorker_accounts policy clock queue waits
  refine ⟨haccounts.ids_initial, fun henough => ?_, haccounts.exists_divides⟩
  refine haccounts.ids_initial.eq_of_length ?_
  rw [List.length_map, List.length_map]
  exact length_reports policy clock henough

/-- Two queued frames, of which the transport takes the first whole and the second in part before it
fails: both are reported, in their order. -/
theorem reports_account_for_two_frames :
    let deadline : MonoTime := ⟨.ofSecs 10 tenSeconds_fits⟩
    let frame (id : UInt64) : QueuedFrame :=
      ⟨⟨id⟩, List.replicate 14 0xFF, deadline, ⟨.control, none⟩⟩
    let waits : List Wait :=
      [⟨.zero, .completed 0⟩, ⟨.zero, .completed 14⟩, ⟨.zero, .completed 0⟩,
        ⟨.zero, .completed 5⟩] ++
        List.replicate 26 ⟨.zero, .failed .brokenPipe⟩
    (runWorker RuntimePolicy.default.writerPolicy none .zero [frame 0, frame 1] waits).reports.map
      WriterReport.writeId = [⟨0⟩, ⟨1⟩] := by
  intro deadline frame waits
  exact (reports_account_for_bytes _ .zero [frame 0, frame 1] waits).2.1 (by decide)

end Hsms
end SecsRust
