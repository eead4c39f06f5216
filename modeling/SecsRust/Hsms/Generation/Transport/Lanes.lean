import SecsRust.Lib.Balance
import SecsRust.Lib.Machine
import SecsRust.Hsms.Generation.Transport.Worker

/-!
# The lanes of the writer

One `BoundedWriter` with everything that holds a part of its capacity: the permits that its
user has reserved, the frames in the FIFO, the frame that the task is writing, and the
reports of the task, in their channel or with the consumer.  A frame takes a slot of its
lane, and a Data frame its bytes; it keeps them from its admission until its report is
dropped.  The FIFO and the report channel have one place for every slot of either lane.

`WriterSystem` is the state, and a `WriterInput` is anything that can happen to it, in any
order.  The reports have no bound on how long their consumer holds them, so a lane may be
exhausted for as long as the consumer likes.  What has to be shown is that the other lane
does not notice.

## The accounts

There are five pools: the slots of either lane, the bytes of Data frames, the places of the
FIFO, and those of the report channel.  For each of them what is free and what is charged
adds up to its size (`Accounted`, with the accounts of `Lib.Balance`).  A step moves a
charge from one holder to another, or between the holders and the pools, and changes no sum
(`Keeps`, `keeps_step`).

`lanes_are_independent` reads the consequences off the accounts.  A Data reservation is
refused only where the Data pools are exhausted, and a control frame only where the control
lane is: the FIFO is full only if all the slots of both lanes are taken.  A permit has its
place already and is never refused for capacity.  And a frame that is being written holds a
slot, so there is a place for its report and the task never blocks.
-/

namespace SecsRust
namespace Hsms

open Secs2

/-- A report, with the frame that it is about. -/
structure Reported where
  frame : QueuedFrame
  report : WriterReport

/-- A `BoundedWriter` and all that its capacity is lent to: `active` is the frame that the task is
writing, `terminal` its fault, `reports` the channel with `reportRoom` free places, and `consumed`
are the reports that the consumer has taken and not yet dropped. -/
structure WriterSystem where
  writer : BoundedWriter
  permits : List PreparedData
  running : Bool
  active : Option QueuedFrame
  terminal : Option TransportFault
  reportsOpen : Bool
  reportRoom : ℕ
  reports : List Reported
  consumed : List Reported

/-- What can happen to a writer.  A permit or a report is named by its index; `written` is the
return of `write_frame`, and `abort` is the end of the task from outside. -/
inductive WriterInput where
  | reserve (body : Option SecsItem)
  | release (index : ℕ)
  | dropPermit (index : ℕ)
  | admitReserved (index : ℕ) (frame : OutboundFrame) (now : MonoTime)
  | admitControl (frame : OutboundFrame) (now : MonoTime)
  | cancelled
  | receive
  | written (outcome : WriteOutcome) (occurredAt : MonoTime)
  | abort
  | takeReport
  | dropReport (index : ℕ)
  | closeReports

/-- What the user of a writer is answered, and what the task meets. -/
inductive WriterOutput where
  | reserved (result : Except OperationError Unit)
  | released (result : Except DataPermitError Unit)
  | admittedReserved (result : Except ReservedDataAdmissionError Unit)
  | admitted (result : Except WriteAdmissionError Unit)
  | reportsFull

namespace BoundedWriter

/-- Drops a charge that has no room in the FIFO any more. -/
def discharge (self : BoundedWriter) (charge : Charge) : BoundedWriter :=
  { self.release charge with freeSlots := self.freeSlots }

end BoundedWriter

namespace WriterSystem

/-- The writer and its task, as `BoundedWriter::new` makes them. -/
def new (writer : BoundedWriter) : WriterSystem where
  writer := writer
  permits := []
  running := true
  active := none
  terminal := none
  reportsOpen := true
  reportRoom := writer.freeSlots
  reports := []
  consumed := []

/-- The end of the task, which drops its end of the FIFO with everything in it. -/
def endTask (w : WriterSystem) : WriterSystem :=
  { w with
    writer := w.active.toList.foldl (fun writer frame => writer.discharge frame.charge)
      (w.writer.queue.foldl (fun writer frame => writer.release frame.charge)
        { w.writer with closed := true, queue := [] })
    running := false
    active := none }

/-- One entry of the FIFO; without one, the task ends once nothing can be admitted any more. -/
def receive (w : WriterSystem) : WriterSystem :=
  match w.writer.queue with
  | frame :: queue =>
    { w with
      writer := { w.writer with queue := queue, freeSlots := w.writer.freeSlots + 1 }
      active := some frame }
  | [] => if w.writer.closed = true ∧ w.permits = [] then w.endTask else w

/-- A fault of the transport is the last one, and closes the FIFO. -/
def fail (w : WriterSystem) : Option TransportFault → WriterSystem
  | some fault => { w with terminal := some fault, writer := { w.writer with closed := true } }
  | none => w

/-- `try_send` of a report, without which the task ends. -/
def sendReport (w : WriterSystem) (frame : QueuedFrame) (report : WriterReport) :
    WriterSystem × List WriterOutput :=
  if w.reportsOpen = false then (w.endTask, [])
  else if w.reportRoom = 0 then (w.endTask, [.reportsFull])
  else
    ({ w with
      active := none
      reportRoom := w.reportRoom - 1
      reports := w.reports ++ [⟨frame, report⟩] }, [])

/-- The report of the frame that has been written, or has not. -/
def report (w : WriterSystem) (frame : QueuedFrame) (outcome : WriteOutcome)
    (occurredAt : MonoTime) :
    WriterSystem × List WriterOutput :=
  let outcome := (w.terminal.map WriteOutcome.notWritten).getD outcome
  (w.fail outcome.fault).sendReport frame (frame.report outcome occurredAt)

/-- One step of a writer.  An input that names no permit, report or frame that exists does
nothing. -/
def step (w : WriterSystem) : WriterInput → WriterSystem × List WriterOutput
  | .reserve body =>
    match w.writer.tryReserveMessage body with
    | (.ok permit, writer) =>
      ({ w with writer := writer, permits := w.permits ++ [permit] }, [.reserved (.ok ())])
    | (.error e, writer) => ({ w with writer := writer }, [.reserved (.error e)])
  | .release index =>
    match w.permits[index]? with
    | none => (w, [])
    | some permit =>
      let (result, writer) := w.writer.releaseData permit
      ({ w with writer := writer, permits := w.permits.eraseIdx index }, [.released result])
  | .dropPermit index =>
    match w.permits[index]? with
    | none => (w, [])
    | some permit =>
      ({ w with writer := w.writer.release permit.charge, permits := w.permits.eraseIdx index }, [])
  | .admitReserved index frame now =>
    match w.permits[index]? with
    | none => (w, [])
    | some permit =>
      let (result, writer) := w.writer.admitReservedData permit frame now
      ({ w with writer := writer, permits := w.permits.eraseIdx index }, [.admittedReserved result])
  | .admitControl frame now =>
    let (result, writer) := w.writer.tryAdmit frame now
    ({ w with writer := writer }, [.admitted result])
  | .cancelled =>
    if w.running = true ∧ w.active.isNone = true ∧ w.terminal = none then
      ({ w with terminal := some ⟨.cancelled⟩, writer := { w.writer with closed := true } }, [])
    else (w, [])
  | .receive => if w.running = true ∧ w.active.isNone = true then (w.receive, []) else (w, [])
  | .written outcome occurredAt =>
    match w.active with
    | none => (w, [])
    | some frame => w.report frame outcome occurredAt
  | .abort => (w.endTask, [])
  | .takeReport =>
    match w.reports with
    | [] => (w, [])
    | report :: reports =>
      ({ w with reportRoom := w.reportRoom + 1, reports := reports, consumed :=
        w.consumed ++ [report] }, [])
  | .dropReport index =>
    match w.consumed[index]? with
    | none => (w, [])
    | some reported =>
      ({ w with
        writer := w.writer.discharge reported.report.charge
        consumed := w.consumed.eraseIdx index }, [])
  | .closeReports =>
    ({ w with
      writer := w.reports.foldl (fun writer reported =>
        writer.discharge reported.report.charge) w.writer
      reportsOpen := false
      reportRoom := w.reportRoom + w.reports.length
      reports := [] }, [])

/-- A writer as a machine. -/
def machine : Machine WriterSystem WriterInput WriterOutput := ⟨step⟩

end WriterSystem

/-! ## Pools and charges -/

/-- The pools that a charge is taken from: the slots of a lane, and the bytes of Data frames. -/
inductive Pool where
  | slots (lane : Lane)
  | bytes
  deriving DecidableEq

/-- What a charge takes from a pool. -/
def Charge.weight (pool : Pool) (charge : Charge) : ℕ :=
  match pool with
  | .slots lane => if charge.slot = lane then 1 else 0
  | .bytes => charge.bytes.getD 0

/-- A frame is charged with a Control slot, or with a Data slot and its bytes. -/
def QueuedFrame.Charged (frame : QueuedFrame) : Prop :=
  frame.charge = ⟨.control, none⟩ ∨
    stampLength ≤ frame.bytes.length ∧ frame.charge = ⟨.data, some frame.bytes.length⟩

/-- The size of a pool, as the limits and the policy have it. -/
def Pool.capacity (limits : EndpointLimits) (policy : WriterPolicy) : Pool → ℕ
  | .slots .control => limits.criticalLaneCapacity
  | .slots .data => limits.dataLaneCapacity
  | .bytes => policy.dataBytes

/-- What is left of a pool. -/
def BoundedWriter.free (self : BoundedWriter) : Pool → ℕ
  | .slots .control => self.controlSlots
  | .slots .data => self.dataSlots
  | .bytes => self.dataBytes

namespace WriterSystem

/-- The frames that have been admitted and whose reports have not been dropped. -/
def frames (w : WriterSystem) : List QueuedFrame :=
  w.writer.queue ++ w.active.toList ++ (w.reports ++ w.consumed).map Reported.frame

/-- Everything that is charged to the pools. -/
def charges (w : WriterSystem) : List Charge :=
  w.permits.map PreparedData.charge ++ w.frames.map QueuedFrame.charge

/-- How much of a pool is charged. -/
def charged (w : WriterSystem) (pool : Pool) : ℕ := (w.charges.map (Charge.weight pool)).sum

end WriterSystem

/-! ## What the operations do to the pools -/

namespace BoundedWriter

variable {self before after last : BoundedWriter}

/-- A writer without its counters, so that two writers can be compared in everything else. -/
def bare (self : BoundedWriter) : BoundedWriter :=
  { self with freeSlots := 0, controlSlots := 0, dataSlots := 0, dataBytes := 0 }

/-- Places of the FIFO and parts of the pools are given back, and nothing else changes. -/
structure Returns (before after : BoundedWriter) (places : ℕ) (amount : Pool → ℕ) : Prop where
  bare : after.bare = before.bare
  places : after.freeSlots = before.freeSlots + places
  free : ∀ pool, after.free pool = before.free pool + amount pool

namespace Returns

variable {places places' : ℕ} {amount amount' : Pool → ℕ}

theorem refl (self : BoundedWriter) : Returns self self 0 fun _ => 0 := ⟨rfl, rfl, fun _ => rfl⟩

theorem trans (h : Returns before after places amount) (h' : Returns after last places' amount') :
    Returns before last (places + places') fun pool => amount pool + amount' pool where
  bare := h'.bare.trans h.bare
  places := by rw [h'.places, h.places, Nat.add_assoc]
  free pool := by rw [h'.free, h.free, Nat.add_assoc]

theorem owner (h : Returns before after places amount) : after.owner = before.owner :=
  show after.bare.owner = before.bare.owner from congrArg BoundedWriter.owner h.bare

theorem closed (h : Returns before after places amount) : after.closed = before.closed :=
  show after.bare.closed = before.bare.closed from congrArg BoundedWriter.closed h.bare

theorem queue (h : Returns before after places amount) : after.queue = before.queue :=
  show after.bare.queue = before.bare.queue from congrArg BoundedWriter.queue h.bare

theorem encoder (h : Returns before after places amount) : after.encoder = before.encoder :=
  show after.bare.encoder = before.bare.encoder from congrArg BoundedWriter.encoder h.bare

theorem limits (h : Returns before after places amount) : after.limits = before.limits :=
  show after.bare.limits = before.bare.limits from congrArg BoundedWriter.limits h.bare

theorem policy (h : Returns before after places amount) : after.policy = before.policy :=
  show after.bare.policy = before.bare.policy from congrArg BoundedWriter.policy h.bare

end Returns

theorem returns_release (self : BoundedWriter) (charge : Charge) :
    Returns self (self.release charge) 1 fun pool => charge.weight pool where
  bare := rfl
  places := rfl
  free pool := by
    cases pool with
    | bytes => rfl
    | slots lane =>
      cases lane <;> simp only [free, release, Charge.weight] <;> split <;> rfl

theorem returns_discharge (self : BoundedWriter) (charge : Charge) :
    Returns self (self.discharge charge) 0 fun pool => charge.weight pool where
  bare := rfl
  places := rfl
  free := (returns_release self charge).free

/-- Many are given back, one after another. -/
theorem returns_foldl {α : Type} (charge : α → Charge) {give : BoundedWriter → α → BoundedWriter}
    {places : ℕ} (hgive : ∀ writer a, Returns writer (give writer a) places fun pool =>
      (charge a).weight pool) (l : List α) :
    ∀ writer, Returns writer (l.foldl give writer) (places * l.length) fun pool =>
      (l.map fun a => (charge a).weight pool).sum := by
  induction l with
  | nil => exact fun writer => Returns.refl writer
  | cons a l ih =>
    intro writer
    have hboth := (hgive writer a).trans (ih (give writer a))
    rw [Nat.add_comm, ← Nat.mul_succ] at hboth
    exact hboth

/-- A permit of this writer: it is charged with a Data slot and the bytes of its frame, which the
encoder admits. -/
structure Permitted (writer : BoundedWriter) (permit : PreparedData) : Prop where
  owner : permit.owner = writer.owner
  charge : permit.charge = ⟨.data, some permit.bytes.length⟩
  fits : hsmsHeaderLength + (permit.bytes.length - stampLength) ≤ writer.encoder.maxMessageLength

/-- **A reservation** takes a place, a slot and the bytes of its frame, or changes nothing. -/
theorem tryReserveMessage_cases (body : Option SecsItem) :
    (∃ e, self.tryReserveMessage body = (.error e, self)) ∨
      ∃ permit after, self.tryReserveMessage body = (.ok permit, after) ∧ self.Permitted permit ∧
        Returns after self 1 fun pool => permit.charge.weight pool := by
  unfold tryReserveMessage
  split
  · exact .inl ⟨_, rfl⟩
  · split
    · exact .inl ⟨_, rfl⟩
    · rename_i plan hbody
      split
      · exact .inl ⟨_, rfl⟩
      · rename_i frame hframe
        obtain ⟨hfits, rfl⟩ := planData_eq_ok.mp hframe
        split_ifs with hwide hslots hbytes hplaces
        · exact .inl ⟨_, rfl⟩
        · exact .inl ⟨_, rfl⟩
        · exact .inl ⟨_, rfl⟩
        · exact .inl ⟨_, rfl⟩
        · split
          · exact .inl ⟨_, rfl⟩
          · rename_i encoded hencoded
            rw [plan.writeInto_eq] at hencoded
            have hlength : encoded.length = stampLength + plan.encodedLength := by
              rw [← Except.ok.inj hencoded, List.length_append, List.length_replicate,
                plan.encodedLength_eq]
            refine .inr ⟨_, _, rfl, ⟨rfl, ?_, ?_⟩, rfl,
              (Nat.sub_add_cancel (Nat.pos_of_ne_zero hplaces)).symm, fun pool => ?_⟩
            · dsimp only
              rw [hlength, ← Nat.add_assoc]
              rfl
            · dsimp only
              rw [hlength, Nat.add_sub_cancel_left]
              exact hfits
            · cases pool with
              | bytes => exact (Nat.sub_add_cancel (Nat.not_lt.mp hbytes)).symm
              | slots lane =>
                cases lane with
                | control => rfl
                | data => exact (Nat.sub_add_cancel (Nat.pos_of_ne_zero hslots)).symm

/-- A permit of this writer that is given back returns its place, its slot and its bytes. -/
theorem releaseData_eq {permit : PreparedData} (h : permit.owner = self.owner) :
    self.releaseData permit = (.ok (), self.release permit.charge) := by
  unfold releaseData
  rw [if_pos h.symm]

theorem length_writePrefixAndHeader (plan : DataFramePlan) (header : DataHeader) :
    (plan.writePrefixAndHeader [] header).length = stampLength := by
  unfold DataFramePlan.writePrefixAndHeader
  rw [List.nil_append, List.length_append, (dataHeaderBytes header).length_eq]
  rfl

/-- **A permit is admitted**, with its charge, whatever the writer has left; it is refused only once
the FIFO is closed, for a frame that is no Data, or if the clock cannot count its deadline. -/
theorem admitReservedData_cases {permit : PreparedData} (h : self.Permitted permit)
    (frame : OutboundFrame)
    (now : MonoTime) :
    (∃ message deadline bytes, self.closed = false ∧ frame.message = .data message ∧
      now.checkedAdd self.policy.residence = some deadline ∧ bytes.length = permit.bytes.length ∧
      self.admitReservedData permit frame now = (.ok (), { self with
        queue := self.queue ++ [⟨frame.writeId, bytes, deadline, permit.charge⟩] })) ∨
    (self.closed = true ∧
      self.admitReservedData permit frame now = (.error .closed, self.release permit.charge)) ∨
    (((∃ message, frame.message = .control message) ∨ now.checkedAdd self.policy.residence = none) ∧
      self.admitReservedData permit frame now = (.error .invariant,
        self.release permit.charge)) := by
  unfold admitReservedData
  rw [if_neg (not_not.mpr h.owner.symm)]
  split
  · rename_i hclosed
    exact .inr (.inl ⟨hclosed, rfl⟩)
  · rename_i hopen
    cases hmessage : frame.message with
    | control message => exact .inr (.inr ⟨.inl ⟨message, rfl⟩, rfl⟩)
    | data message =>
      dsimp only
      rw [planData_eq_ok.mpr ⟨h.fits, rfl⟩]
      dsimp only
      cases hdeadline : now.checkedAdd self.policy.residence with
      | none => exact .inr (.inr ⟨.inr rfl, rfl⟩)
      | some deadline =>
        refine .inl ⟨message, deadline, _, Bool.eq_false_iff.mpr hopen, rfl, rfl, ?_, rfl⟩
        rw [List.length_append, length_writePrefixAndHeader, List.length_drop]
        exact Nat.add_sub_cancel' permit.placeholder_le

/-- **A control frame** takes a place and a slot, or changes nothing.  It never touches the pools
of the Data lane. -/
theorem tryAdmit_cases (frame : OutboundFrame) (now : MonoTime) :
    (∃ e, self.tryAdmit frame now = (.error e, self)) ∨
      ∃ bytes deadline after, self.closed = false ∧ self.tryAdmit frame now = (.ok (), { after with
          queue := self.queue ++ [⟨frame.writeId, bytes, deadline, ⟨.control, none⟩⟩] }) ∧
        Returns after self 1 fun pool => Charge.weight pool ⟨.control, none⟩ := by
  unfold tryAdmit
  split
  · exact .inl ⟨_, rfl⟩
  · split_ifs with hclosed hslots hplaces
    · exact .inl ⟨_, rfl⟩
    · exact .inl ⟨_, rfl⟩
    · exact .inl ⟨_, rfl⟩
    · dsimp only
      split
      · exact .inl ⟨_, rfl⟩
      · refine .inr ⟨_, _, { self with
          freeSlots := self.freeSlots - 1
          controlSlots := self.controlSlots - 1 }, Bool.eq_false_iff.mpr hclosed, rfl, rfl,
          (Nat.sub_add_cancel (Nat.pos_of_ne_zero hplaces)).symm, fun pool => ?_⟩
        cases pool with
        | bytes => rfl
        | slots lane =>
          cases lane with
          | control => exact (Nat.sub_add_cancel (Nat.pos_of_ne_zero hslots)).symm
          | data => rfl

/-- **A control frame that finds no capacity** finds no slot of its lane, or no place. -/
theorem exhausted_of_full {frame : OutboundFrame} {now : MonoTime}
    (h : (self.tryAdmit frame now).1 = .error .full) :
    self.controlSlots = 0 ∨ self.freeSlots = 0 := by
  unfold tryAdmit at h
  split at h
  · cases h
  · split_ifs at h with hclosed hslots hplaces
    · cases h
    · exact .inl hslots
    · exact .inr hplaces
    · dsimp only at h
      split at h
      · cases h
      · cases h

/-- **A reservation that finds no capacity** finds no slot of its lane, too few bytes, or no place;
or its frame is longer than any count of bytes. -/
theorem exhausted_of_backpressure {body : Option SecsItem}
    (h : (self.tryReserveMessage body).1 = .error .backpressure) :
    ∃ plan, prepareBody body = .ok plan ∧
      (self.dataSlots = 0 ∨ self.dataBytes < stampLength + plan.encodedLength ∨ self.freeSlots = 0 ∨
        u32Max < stampLength + plan.encodedLength) := by
  have hsource (source : Secs2.EncodeError) : encodeError source ≠ .backpressure := by
    cases source <;> exact OperationError.noConfusion
  unfold tryReserveMessage at h
  split at h
  · cases h
  · split at h
    · exact absurd (Except.error.inj h) (hsource _)
    · rename_i plan hbody
      split at h
      · cases h
      · rename_i frame hframe
        have hlength : frame.encodedLength = stampLength + plan.encodedLength := by
          rw [(planData_eq_ok.mp hframe).2, ← Nat.add_assoc]
          rfl
        refine ⟨plan, hbody, ?_⟩
        rw [← hlength]
        split_ifs at h with hwide hslots hbytes hplaces
        · exact .inr (.inr (.inr hwide))
        · exact .inl hslots
        · exact .inr (.inl hbytes)
        · exact .inr (.inr (.inl hplaces))
        · split at h
          · exact absurd (Except.error.inj h) (hsource _)
          · cases h

end BoundedWriter

/-! ## What every step keeps -/

/-- The places of the FIFO, and of the report channel. -/
def placesOf (limits : EndpointLimits) : ℕ := limits.dataLaneCapacity + limits.criticalLaneCapacity

namespace WriterSystem

variable {limits : EndpointLimits} {policy : WriterPolicy} {w w' : WriterSystem}

/-- **The accounts of a writer**: every pool is in balance, and so are the FIFO and the report
channel; every charge is what the frame that it is for costs. -/
structure Accounted (limits : EndpointLimits) (policy : WriterPolicy) (w : WriterSystem) :
    Prop where
  encoder_eq : w.writer.encoder = .new limits
  policy_eq : w.writer.policy = policy
  pools : ∀ pool, InBalance (Charge.weight pool) (pool.capacity limits policy)
    (w.writer.free pool) w.charges
  places : w.writer.freeSlots + (w.permits.length + w.writer.queue.length) = placesOf limits
  room : w.reportRoom + w.reports.length = placesOf limits
  permits : ∀ permit ∈ w.permits, w.writer.Permitted permit
  frames : ∀ frame ∈ w.frames, frame.Charged
  reported : ∀ reported ∈ w.reports ++ w.consumed, reported.report.charge = reported.frame.charge

/-- What is charged to a pool, by who holds it. -/
theorem charged_eq (w : WriterSystem) (pool : Pool) :
    w.charged pool = (w.permits.map fun permit => permit.charge.weight pool).sum +
      (w.writer.queue.map fun frame => frame.charge.weight pool).sum +
      (w.active.toList.map fun frame => frame.charge.weight pool).sum +
      (w.reports.map fun reported => reported.frame.charge.weight pool).sum +
      (w.consumed.map fun reported => reported.frame.charge.weight pool).sum := by
  unfold charged charges frames
  simp only [List.map_append, List.sum_append, List.map_map, Function.comp_def]
  omega

/-- What a step keeps: the sum of what is free and what is charged, for each pool and for both
channels. -/
structure Keeps (w w' : WriterSystem) : Prop where
  owner : w'.writer.owner = w.writer.owner
  encoder : w'.writer.encoder = w.writer.encoder
  policy : w'.writer.policy = w.writer.policy
  total : ∀ pool, w'.writer.free pool + w'.charged pool = w.writer.free pool + w.charged pool
  places : w'.writer.freeSlots + (w'.permits.length + w'.writer.queue.length) =
    w.writer.freeSlots + (w.permits.length + w.writer.queue.length)
  room : w'.reportRoom + w'.reports.length = w.reportRoom + w.reports.length
  permits : ∀ permit ∈ w'.permits, permit ∈ w.permits ∨ w.writer.Permitted permit
  frames : ∀ frame ∈ w'.frames, frame ∈ w.frames ∨ frame.Charged
  reported : ∀ reported ∈ w'.reports ++ w'.consumed, reported ∈ w.reports ++ w.consumed ∨
    reported.report.charge = reported.frame.charge

theorem Keeps.refl (w : WriterSystem) : Keeps w w :=
  ⟨rfl, rfl, rfl, fun _ => rfl, rfl, rfl, fun _ => .inl, fun _ => .inl, fun _ => .inl⟩

theorem Keeps.trans {w₁ w₂ : WriterSystem} (h : Keeps w w₁) (h' : Keeps w₁ w₂) : Keeps w w₂ where
  owner := h'.owner.trans h.owner
  encoder := h'.encoder.trans h.encoder
  policy := h'.policy.trans h.policy
  total pool := (h'.total pool).trans (h.total pool)
  places := h'.places.trans h.places
  room := h'.room.trans h.room
  permits permit hpermit := by
    rcases h'.permits permit hpermit with hpermit | hpermitted
    · exact h.permits permit hpermit
    · exact .inr ⟨hpermitted.owner.trans h.owner, hpermitted.charge, h.encoder ▸ hpermitted.fits⟩
  frames frame hframe := (h'.frames frame hframe).elim (h.frames frame) .inr
  reported reported hreported := (h'.reported reported hreported).elim (h.reported reported) .inr

theorem Accounted.of_keeps (h : w.Accounted limits policy) (hkeeps : Keeps w w') :
    w'.Accounted limits policy where
  encoder_eq := hkeeps.encoder.trans h.encoder_eq
  policy_eq := hkeeps.policy.trans h.policy_eq
  pools pool := (h.pools pool).step (hkeeps.total pool)
  places := hkeeps.places.trans h.places
  room := hkeeps.room.trans h.room
  permits permit hpermit := by
    have hpermitted : w.writer.Permitted permit :=
      (hkeeps.permits permit hpermit).elim (h.permits permit) id
    exact ⟨hpermitted.owner.trans hkeeps.owner.symm, hpermitted.charge,
      hkeeps.encoder ▸ hpermitted.fits⟩
  frames frame hframe := (hkeeps.frames frame hframe).elim (h.frames frame) id
  reported reported hreported := (hkeeps.reported reported hreported).elim (h.reported reported) id

/-! ### The steps -/

/-- The end of the task gives back what the FIFO and the task hold. -/
theorem returns_endTask (w : WriterSystem) :
    BoundedWriter.Returns { w.writer with closed := true, queue := [] } w.endTask.writer
      (1 * w.writer.queue.length + 0 * w.active.toList.length) fun pool =>
        (w.writer.queue.map fun frame => frame.charge.weight pool).sum +
          (w.active.toList.map fun frame => frame.charge.weight pool).sum :=
  (BoundedWriter.returns_foldl QueuedFrame.charge
      (fun writer frame => BoundedWriter.returns_release writer
        (QueuedFrame.charge frame)) w.writer.queue
      { w.writer with closed := true, queue := [] }).trans
    (BoundedWriter.returns_foldl QueuedFrame.charge
      (fun writer frame => BoundedWriter.returns_discharge writer (QueuedFrame.charge frame))
      w.active.toList _)

theorem keeps_endTask (w : WriterSystem) : Keeps w w.endTask := by
  have hreturns := w.returns_endTask
  have hqueue : w.endTask.writer.queue = [] := hreturns.queue
  refine ⟨hreturns.owner, hreturns.encoder, hreturns.policy, fun pool => ?_, ?_, rfl, fun _ => .inl,
    fun frame hframe => .inl ?_, fun _ => .inl⟩
  · have hfree : w.endTask.writer.free pool = w.writer.free pool + _ := hreturns.free pool
    rw [charged_eq, charged_eq, hqueue, hfree]
    simp only [endTask, List.map_nil, List.sum_nil, Option.toList_none]
    omega
  · have hplaces : w.endTask.writer.freeSlots = w.writer.freeSlots + _ := hreturns.places
    rw [hqueue, hplaces]
    simp only [endTask, List.length_nil]
    omega
  · unfold frames at hframe ⊢
    rw [hqueue] at hframe
    exact List.mem_append_right _ hframe

/-- A frame goes from the FIFO to the task, and its place is free again. -/
theorem keeps_receive (hactive : w.active = none) : Keeps w w.receive := by
  unfold receive
  split
  · rename_i frame queue hqueue
    refine ⟨rfl, rfl, rfl, fun pool => ?_, ?_, rfl, fun _ => .inl, fun other hother => .inl ?_,
      fun _ => .inl⟩
    · rw [charged_eq, charged_eq, hqueue, hactive]
      simp only [BoundedWriter.free, List.map_cons, List.sum_cons, Option.toList_some,
        Option.toList_none, List.map_nil, List.sum_nil]
      omega
    · rw [hqueue]
      simp only [List.length_cons]
      omega
    · unfold frames at hother ⊢
      rw [hqueue, hactive]
      simp only [Option.toList_some, Option.toList_none, List.mem_append, List.mem_cons,
        List.not_mem_nil] at hother ⊢
      tauto
  · split
    · exact keeps_endTask w
    · exact Keeps.refl w

theorem keeps_fail (w : WriterSystem) (fault : Option TransportFault) : Keeps w (w.fail fault) := by
  cases fault with
  | none => exact Keeps.refl w
  | some fault => exact ⟨rfl, rfl, rfl, fun _ => rfl, rfl, rfl, fun _ => .inl, fun _ =>
    .inl, fun _ => .inl⟩

/-- A frame goes from the task to the report channel, if its consumer is there. -/
theorem keeps_sendReport {frame : QueuedFrame} {report : WriterReport}
    (hactive : w.active = some frame)
    (hcharge : report.charge = frame.charge) : Keeps w (w.sendReport frame report).1 := by
  unfold sendReport
  split_ifs with hopen hroom
  · exact keeps_endTask w
  · exact keeps_endTask w
  · refine ⟨rfl, rfl, rfl, fun pool => ?_, rfl, ?_, fun _ => .inl, fun other hother => .inl ?_,
      fun reported hreported => ?_⟩
    · rw [charged_eq, charged_eq, hactive]
      simp only [List.map_append, List.sum_append, List.map_cons, List.sum_cons, Option.toList_some,
        Option.toList_none, List.map_nil, List.sum_nil]
      omega
    · simp only [List.length_append, List.length_singleton]
      omega
    · unfold frames at hother ⊢
      rw [hactive]
      simp only [Option.toList_some, Option.toList_none, List.map_append, List.map_cons,
        List.map_nil, List.mem_append, List.mem_singleton, List.not_mem_nil] at hother ⊢
      tauto
    · simp only [List.mem_append, List.mem_singleton] at hreported ⊢
      rcases hreported with (hreported | rfl) | hreported
      · exact .inl (.inl hreported)
      · exact .inr hcharge
      · exact .inl (.inr hreported)

theorem keeps_report {frame : QueuedFrame} (hactive : w.active = some frame)
    (outcome : WriteOutcome)
    (occurredAt : MonoTime) : Keeps w (w.report frame outcome occurredAt).1 := by
  unfold report
  dsimp only
  refine (keeps_fail w _).trans (keeps_sendReport ?_ rfl)
  unfold fail
  split
  · exact hactive
  · exact hactive

/-- A permit leaves, and its charge goes back to the pools. -/
theorem keeps_dropPermit {index : ℕ} {permit : PreparedData}
    (hpermit : w.permits[index]? = some permit) :
    Keeps w { w with
      writer := w.writer.release permit.charge
      permits := w.permits.eraseIdx index } := by
  have hreturns := BoundedWriter.returns_release w.writer permit.charge
  have hless := List.length_eraseIdx_add_one (List.getElem?_eq_some_iff.mp hpermit).choose
  refine ⟨hreturns.owner, hreturns.encoder, hreturns.policy, fun pool => ?_, ?_, rfl,
    fun other hother => .inl (List.mem_of_mem_eraseIdx hother), fun _ => .inl, fun _ => .inl⟩
  · rw [charged_eq, charged_eq, hreturns.free, hreturns.queue,
      sum_map_eraseIdx (fun permit : PreparedData => permit.charge.weight pool) hpermit]
    dsimp only
    omega
  · dsimp only
    rw [hreturns.places, hreturns.queue]
    omega

/-- A report is dropped, and its charge goes back to the pools. -/
theorem keeps_dropReport {index : ℕ} {reported : Reported}
    (hreported : w.consumed[index]? = some reported)
    (hcharge : reported.report.charge = reported.frame.charge) :
    Keeps w { w with
      writer := w.writer.discharge reported.report.charge
      consumed := w.consumed.eraseIdx index } := by
  have hreturns := BoundedWriter.returns_discharge w.writer reported.report.charge
  have hfewer : w.reports ++ w.consumed.eraseIdx index ⊆ w.reports ++ w.consumed :=
    ((List.eraseIdx_sublist _ _).append_left _).subset
  refine ⟨hreturns.owner, hreturns.encoder, hreturns.policy, fun pool => ?_, ?_, rfl, fun _ => .inl,
    fun frame hframe => .inl ?_, fun other hother => .inl ?_⟩
  · rw [charged_eq, charged_eq, hreturns.free, hreturns.queue, hcharge,
      sum_map_eraseIdx (fun reported : Reported => reported.frame.charge.weight pool) hreported]
    dsimp only
    omega
  · dsimp only
    rw [hreturns.places, hreturns.queue]
    omega
  · unfold frames at hframe ⊢
    dsimp only at hframe
    rw [hreturns.queue] at hframe
    refine (List.mem_append.mp hframe).elim (List.mem_append_left _) fun hframe => ?_
    exact List.mem_append_right _ (List.map_subset _ hfewer hframe)
  · exact hfewer hother

/-- The consumer goes away, with the reports in the channel. -/
theorem keeps_closeReports
    (hcharge : ∀ reported ∈ w.reports, reported.report.charge = reported.frame.charge) :
    Keeps w (w.step .closeReports).1 := by
  have hreturns := BoundedWriter.returns_foldl (fun reported : Reported => reported.report.charge)
    (fun writer reported => BoundedWriter.returns_discharge writer reported.report.charge)
      w.reports w.writer
  have hsame (pool : Pool) : (w.reports.map fun reported => reported.report.charge.weight pool) =
      w.reports.map fun reported => reported.frame.charge.weight pool :=
    List.map_congr_left fun reported hreported => congrArg (Charge.weight pool)
      (hcharge reported hreported)
  refine ⟨hreturns.owner, hreturns.encoder, hreturns.policy, fun pool => ?_, ?_, rfl, fun _ => .inl,
    fun frame hframe => .inl ?_, fun other hother => .inl (List.mem_append_right _ hother)⟩
  · unfold step
    rw [charged_eq, charged_eq]
    dsimp only
    rw [hreturns.free, hreturns.queue, hsame, List.map_nil, List.sum_nil]
    omega
  · unfold step
    dsimp only
    rw [hreturns.places, hreturns.queue, Nat.zero_mul]
    rfl
  · unfold step frames at hframe
    dsimp only at hframe
    rw [hreturns.queue] at hframe
    unfold frames
    refine (List.mem_append.mp hframe).elim (List.mem_append_left _) fun hframe => ?_
    exact List.mem_append_right _ (List.map_subset _ (List.subset_append_right _ _) hframe)

/-- **Every step keeps the accounts.**  Each input moves one charge from one holder to another,
or between a holder and the pools. -/
theorem keeps_step (h : w.Accounted limits policy) (input : WriterInput) :
    Keeps w (w.step input).1 := by
  cases input with
  | reserve body =>
    unfold step
    rcases w.writer.tryReserveMessage_cases body with ⟨e, he⟩ | ⟨permit, after, hreserve,
      hpermit, hreturns⟩
    · simp only [he]
      exact Keeps.refl w
    · simp only [hreserve]
      refine ⟨hreturns.owner.symm, hreturns.encoder.symm, hreturns.policy.symm, fun pool => ?_, ?_,
        rfl, fun other hother => ?_, fun frame hframe => .inl ?_, fun _ => .inl⟩
      · rw [charged_eq, charged_eq, hreturns.free, hreturns.queue]
        simp only [List.map_append, List.sum_append, List.map_cons, List.sum_cons, List.map_nil,
          List.sum_nil]
        omega
      · dsimp only
        rw [hreturns.places, hreturns.queue, List.length_append, List.length_singleton]
        omega
      · rcases List.mem_append.mp hother with hother | hother
        · exact .inl hother
        · exact .inr (List.mem_singleton.mp hother ▸ hpermit)
      · unfold frames at hframe ⊢
        rw [hreturns.queue]
        exact hframe
  | release index =>
    unfold step
    dsimp only
    split
    · exact Keeps.refl w
    · rename_i permit hpermit
      rw [BoundedWriter.releaseData_eq (h.permits permit (List.mem_of_getElem? hpermit)).owner]
      exact keeps_dropPermit hpermit
  | dropPermit index =>
    unfold step
    dsimp only
    split
    · exact Keeps.refl w
    · rename_i permit hpermit
      exact keeps_dropPermit hpermit
  | admitReserved index frame now =>
    unfold step
    dsimp only
    split
    · exact Keeps.refl w
    · rename_i permit hpermit
      have hpermitted := h.permits permit (List.mem_of_getElem? hpermit)
      have hless := List.length_eraseIdx_add_one (List.getElem?_eq_some_iff.mp hpermit).choose
      rcases BoundedWriter.admitReservedData_cases hpermitted frame now with
        ⟨message, deadline, bytes, -, -, -, hbytes, hadmitted⟩ | ⟨-, hadmitted⟩ | ⟨-, hadmitted⟩
      · rw [hadmitted]
        refine ⟨rfl, rfl, rfl, fun pool => ?_, ?_, rfl,
          fun other hother => .inl (List.mem_of_mem_eraseIdx hother), fun other hother => ?_,
          fun _ => .inl⟩
        · rw [charged_eq, charged_eq,
            sum_map_eraseIdx (fun permit : PreparedData => permit.charge.weight pool) hpermit]
          simp only [BoundedWriter.free, List.map_append, List.sum_append, List.map_cons,
            List.sum_cons, List.map_nil, List.sum_nil]
          omega
        · simp only [List.length_append, List.length_singleton]
          omega
        · unfold frames at hother ⊢
          simp only [List.mem_append, List.mem_singleton] at hother ⊢
          rcases hother with ((hother | rfl) | hother) | hother
          · exact .inl (.inl (.inl hother))
          · refine .inr (.inr ⟨hbytes ▸ permit.placeholder_le, ?_⟩)
            rw [hpermitted.charge, hbytes]
          · exact .inl (.inl (.inr hother))
          · exact .inl (.inr hother)
      · rw [hadmitted]
        exact keeps_dropPermit hpermit
      · rw [hadmitted]
        exact keeps_dropPermit hpermit
  | admitControl frame now =>
    unfold step
    rcases w.writer.tryAdmit_cases frame now with ⟨e, he⟩ | ⟨bytes, deadline, after, -,
      hadmitted, hreturns⟩
    · simp only [he]
      exact Keeps.refl w
    · simp only [hadmitted]
      refine ⟨hreturns.owner.symm, hreturns.encoder.symm, hreturns.policy.symm, fun pool => ?_, ?_,
        rfl, fun _ => .inl, fun other hother => ?_, fun _ => .inl⟩
      · have hfree : w.writer.free pool = after.free pool + Charge.weight pool ⟨.control, none⟩ :=
          hreturns.free pool
        rw [charged_eq, charged_eq, hfree]
        unfold BoundedWriter.free
        simp only [List.map_append, List.sum_append, List.map_cons, List.sum_cons, List.map_nil,
          List.sum_nil]
        omega
      · dsimp only
        rw [hreturns.places, List.length_append, List.length_singleton]
        omega
      · unfold frames at hother ⊢
        simp only [List.mem_append, List.mem_singleton] at hother ⊢
        rcases hother with ((hother | rfl) | hother) | hother
        · exact .inl (.inl (.inl hother))
        · exact .inr (.inl rfl)
        · exact .inl (.inl (.inr hother))
        · exact .inl (.inr hother)
  | cancelled =>
    unfold step
    dsimp only
    split
    · exact keeps_fail w (some ⟨.cancelled⟩)
    · exact Keeps.refl w
  | receive =>
    unfold step
    dsimp only
    split
    · rename_i hwaiting
      exact keeps_receive (Option.isNone_iff_eq_none.mp hwaiting.2)
    · exact Keeps.refl w
  | written outcome occurredAt =>
    unfold step
    dsimp only
    split
    · exact Keeps.refl w
    · rename_i frame hactive
      exact keeps_report hactive outcome occurredAt
  | abort => exact keeps_endTask w
  | takeReport =>
    unfold step
    dsimp only
    split
    · exact Keeps.refl w
    · rename_i reported reports hreports
      refine ⟨rfl, rfl, rfl, fun pool => ?_, rfl, ?_, fun _ => .inl, fun frame hframe => .inl ?_,
        fun other hother => .inl ?_⟩
      · rw [charged_eq, charged_eq, hreports]
        simp only [List.map_append, List.sum_append, List.map_cons, List.sum_cons, List.map_nil,
          List.sum_nil]
        omega
      · rw [hreports]
        simp only [List.length_cons]
        omega
      · unfold frames at hframe ⊢
        rw [hreports]
        simp only [List.map_append, List.map_cons, List.map_nil, List.mem_append, List.mem_cons,
          List.not_mem_nil] at hframe ⊢
        tauto
      · rw [hreports]
        simp only [List.mem_append, List.mem_cons, List.not_mem_nil] at hother ⊢
        tauto
  | dropReport index =>
    unfold step
    dsimp only
    split
    · exact Keeps.refl w
    · rename_i reported hreported
      exact keeps_dropReport hreported
        (h.reported reported (List.mem_append_right _ (List.mem_of_getElem? hreported)))
  | closeReports =>
    exact keeps_closeReports fun reported hreported =>
      h.reported reported (List.mem_append_left _ hreported)

/-- A writer starts with balanced accounts. -/
theorem accounted_new {owner : ℕ} {writer : BoundedWriter}
    (hnew : BoundedWriter.new owner limits policy = .ok writer) :
    (WriterSystem.new writer).Accounted limits policy := by
  unfold BoundedWriter.new at hnew
  split at hnew
  · cases hnew
  · rename_i count hcount
    have hplaces : count = placesOf limits := Target.checkedAdd_eq_some hcount
    split_ifs at hnew
    obtain rfl := Except.ok.inj hnew
    refine ⟨rfl, rfl, fun pool => ?_, hplaces, hplaces, List.forall_mem_nil _,
      List.forall_mem_nil _, List.forall_mem_nil _⟩
    cases pool with
    | bytes => rfl
    | slots lane => cases lane <;> rfl

/-- **The accounts of every run are balanced.**  This is the only induction over runs that the
properties of the pools need. -/
theorem accounted_after {owner : ℕ} {writer : BoundedWriter}
    (hnew : BoundedWriter.new owner limits policy = .ok writer) (inputs : List WriterInput) :
    (machine.after (.new writer) inputs).Accounted limits policy :=
  machine.invariant (fun _ input haccounted => haccounted.of_keeps (keeps_step haccounted input))
    (accounted_new hnew) inputs

/-! ## What follows from the accounts -/

/-- Every charge has a slot of one lane. -/
theorem length_charges (charges : List Charge) :
    (charges.map (Charge.weight (.slots .control))).sum + (charges.map
      (Charge.weight (.slots .data))).sum =
      charges.length := by
  induction charges with
  | nil => rfl
  | cons charge charges ih =>
    have hone : charge.weight (.slots .control) + charge.weight (.slots .data) = 1 := by
      unfold Charge.weight
      cases charge.slot <;> rfl
    simp only [List.map_cons, List.sum_cons, List.length_cons]
    omega

namespace Accounted

/-- What is charged and what is left make up a pool. -/
theorem free_add_charged (h : w.Accounted limits policy) (pool : Pool) :
    w.writer.free pool + w.charged pool = pool.capacity limits policy := h.pools pool

theorem charged_le (h : w.Accounted limits policy) (pool : Pool) :
    w.charged pool ≤ pool.capacity limits policy := (h.pools pool).held_le

theorem charged_of_free (h : w.Accounted limits policy) {pool : Pool}
    (hfree : w.writer.free pool = 0) :
    w.charged pool = pool.capacity limits policy := (h.pools pool).held_eq hfree

/-- What holds a slot, by where it is. -/
theorem slots_eq (_h : w.Accounted limits policy) :
    w.permits.length + (w.writer.queue.length + w.active.toList.length +
      (w.reports.length + w.consumed.length)) =
        w.charged (.slots .control) + w.charged (.slots .data) := by
  unfold charged
  rw [length_charges]
  unfold charges WriterSystem.frames
  simp only [List.length_append, List.length_map]

/-- **The FIFO is full only if both lanes are charged.**  Its places are as many as the slots of
the two lanes together. -/
theorem charged_of_full (h : w.Accounted limits policy) (hfull : w.writer.freeSlots = 0) :
    w.charged (.slots .control) = limits.criticalLaneCapacity ∧
      w.charged (.slots .data) = limits.dataLaneCapacity := by
  have hcontrol : w.charged (.slots .control) ≤ limits.criticalLaneCapacity := h.charged_le _
  have hdata : w.charged (.slots .data) ≤ limits.dataLaneCapacity := h.charged_le _
  have hplaces := h.places
  have hslots := h.slots_eq
  unfold placesOf at hplaces
  omega

/-- **The frame that is being written has a place in the report channel.**  So the task can
always report, and never waits for the consumer of the reports. -/
theorem reportRoom_pos (h : w.Accounted limits policy) (hactive : w.active ≠ none) :
    0 < w.reportRoom := by
  have hcontrol : w.charged (.slots .control) ≤ limits.criticalLaneCapacity := h.charged_le _
  have hdata : w.charged (.slots .data) ≤ limits.dataLaneCapacity := h.charged_le _
  have hroom := h.room
  have hslots := h.slots_eq
  obtain ⟨frame, hframe⟩ := Option.ne_none_iff_exists'.mp hactive
  rw [hframe] at hslots
  simp only [Option.toList_some, List.length_singleton] at hslots
  unfold placesOf at hroom
  omega

/-- The place of a permit in the FIFO is its own. -/
theorem length_queue_lt (h : w.Accounted limits policy) {permit : PreparedData}
    (hpermit : permit ∈ w.permits) :
    w.writer.queue.length < placesOf limits := by
  have hplaces := h.places
  have hpositive := List.length_pos_of_mem hpermit
  omega

end Accounted

/-- Only a frame that is being written is reported, and it has its place. -/
theorem reportsFull_notMem (h : w.Accounted limits policy) (input : WriterInput) :
    .reportsFull ∉ (w.step input).2 := by
  cases input with
  | written outcome occurredAt =>
    unfold step
    dsimp only
    split
    · exact List.not_mem_nil
    · rename_i frame hactive
      have hroom := h.reportRoom_pos (hactive ▸ Option.some_ne_none frame)
      unfold report
      dsimp only
      have hsame (fault : Option TransportFault) : (w.fail fault).reportRoom = w.reportRoom := by
        cases fault <;> rfl
      unfold sendReport
      rw [hsame, if_neg hroom.ne']
      split <;> exact List.not_mem_nil
  | receive =>
    unfold step
    dsimp only
    split <;> exact List.not_mem_nil
  | cancelled =>
    unfold step
    dsimp only
    split <;> exact List.not_mem_nil
  | reserve body =>
    unfold step
    dsimp only
    split <;> simp
  | release index =>
    unfold step
    dsimp only
    split <;> simp
  | dropPermit index =>
    unfold step
    dsimp only
    split <;> exact List.not_mem_nil
  | admitReserved index frame now =>
    unfold step
    dsimp only
    split <;> simp
  | admitControl frame now => simp [step]
  | abort => exact List.not_mem_nil
  | takeReport =>
    unfold step
    dsimp only
    split <;> exact List.not_mem_nil
  | dropReport index =>
    unfold step
    dsimp only
    split <;> exact List.not_mem_nil
  | closeReports => exact List.not_mem_nil

/-! ## The end of the task -/

/-- Once the task has ended, the FIFO is closed and holds nothing. -/
def Ended (w : WriterSystem) : Prop :=
  w.running = false → w.writer.closed = true ∧ w.writer.queue = [] ∧ w.active = none

theorem ended_endTask (w : WriterSystem) : w.endTask.Ended :=
  fun _ => ⟨w.returns_endTask.closed, w.returns_endTask.queue, rfl⟩

/-- What leaves a closed FIFO, the task and its frame alone cannot undo its end. -/
theorem Ended.of_same (h : w.Ended) (hrunning : w'.running = w.running)
    (hactive : w'.active = w.active)
    (hqueue : w.writer.closed = true → w'.writer.closed = true ∧ w'.writer.queue = w.writer.queue) :
    w'.Ended := by
  intro hended
  obtain ⟨hclosed, hempty, hnone⟩ := h (hrunning ▸ hended)
  obtain ⟨hclosed, hsame⟩ := hqueue hclosed
  exact ⟨hclosed, hsame.trans hempty, hactive.trans hnone⟩

/-- A task that runs may do anything. -/
theorem ended_of_running (hrunning : w.running = true) : w.Ended :=
  fun hended => absurd (hrunning.symm.trans hended) Bool.true_eq_false_eq_False

/-- **The end of the task is final.**  Nothing is admitted and nothing written any more, whatever
the user does. -/
theorem ended_step (h : w.Accounted limits policy) (hended : w.Ended) (input : WriterInput) :
    (w.step input).1.Ended := by
  cases input with
  | reserve body =>
    unfold step
    rcases w.writer.tryReserveMessage_cases body with ⟨e, he⟩ | ⟨permit, after,
      hreserve, -, hreturns⟩
    · simp only [he]
      exact hended
    · simp only [hreserve]
      exact hended.of_same rfl rfl fun hclosed => ⟨hreturns.closed ▸ hclosed, hreturns.queue.symm⟩
  | release index =>
    unfold step
    dsimp only
    split
    · exact hended
    · rename_i permit hpermit
      rw [BoundedWriter.releaseData_eq (h.permits permit (List.mem_of_getElem? hpermit)).owner]
      exact hended.of_same rfl rfl fun hclosed => ⟨hclosed, rfl⟩
  | dropPermit index =>
    unfold step
    dsimp only
    split
    · exact hended
    · exact hended.of_same rfl rfl fun hclosed => ⟨hclosed, rfl⟩
  | admitReserved index frame now =>
    unfold step
    dsimp only
    split
    · exact hended
    · rename_i permit hpermit
      have hpermitted := h.permits permit (List.mem_of_getElem? hpermit)
      rcases BoundedWriter.admitReservedData_cases hpermitted frame now with
        ⟨message, deadline, bytes, hopen, -, -, -, hadmitted⟩ | ⟨-, hadmitted⟩ | ⟨-, hadmitted⟩
      · rw [hadmitted]
        exact hended.of_same rfl rfl fun hclosed =>
          absurd (hclosed.symm.trans hopen) Bool.noConfusion
      · rw [hadmitted]
        exact hended.of_same rfl rfl fun hclosed => ⟨hclosed, rfl⟩
      · rw [hadmitted]
        exact hended.of_same rfl rfl fun hclosed => ⟨hclosed, rfl⟩
  | admitControl frame now =>
    unfold step
    rcases w.writer.tryAdmit_cases frame now with ⟨e, he⟩ | ⟨bytes, deadline, after, hopen,
      hadmitted, hreturns⟩
    · simp only [he]
      exact hended
    · simp only [hadmitted]
      exact hended.of_same rfl rfl fun hclosed => absurd (hclosed.symm.trans hopen) Bool.noConfusion
  | cancelled =>
    unfold step
    dsimp only
    split
    · exact hended.of_same rfl rfl fun _ => ⟨rfl, rfl⟩
    · exact hended
  | receive =>
    unfold step
    dsimp only
    split
    · rename_i hwaiting
      unfold receive
      split
      · exact ended_of_running hwaiting.1
      · split
        · exact ended_endTask w
        · exact hended
    · exact hended
  | written outcome occurredAt =>
    unfold step
    dsimp only
    split
    · exact hended
    · rename_i frame hactive
      have hrunning : w.running = true := by
        by_contra hstopped
        exact Option.some_ne_none frame (hactive ▸ (hended (Bool.eq_false_iff.mpr hstopped)).2.2)
      have hfailed (fault : Option TransportFault) : (w.fail fault).running = w.running := by
        cases fault <;> rfl
      unfold report sendReport
      dsimp only
      split_ifs
      · exact ended_endTask _
      · exact ended_endTask _
      · exact ended_of_running ((hfailed _).trans hrunning)
  | abort => exact ended_endTask w
  | takeReport =>
    unfold step
    dsimp only
    split
    · exact hended
    · exact hended.of_same rfl rfl fun hclosed => ⟨hclosed, rfl⟩
  | dropReport index =>
    unfold step
    dsimp only
    split
    · exact hended
    · exact hended.of_same rfl rfl fun hclosed => ⟨hclosed, rfl⟩
  | closeReports =>
    have hreturns := BoundedWriter.returns_foldl (fun reported : Reported => reported.report.charge)
      (fun writer reported => BoundedWriter.returns_discharge writer reported.report.charge)
        w.reports w.writer
    exact hended.of_same rfl rfl fun hclosed => ⟨hreturns.closed.trans hclosed, hreturns.queue⟩

theorem ended_after {owner : ℕ} {writer : BoundedWriter}
    (hnew : BoundedWriter.new owner limits policy = .ok writer) (inputs : List WriterInput) :
    (machine.after (.new writer) inputs).Ended := by
  have hboth : (machine.after (.new writer) inputs).Accounted limits policy ∧
      (machine.after (.new writer) inputs).Ended :=
    machine.invariant (I := fun w => w.Accounted limits policy ∧ w.Ended)
      (fun _ input h => ⟨h.1.of_keeps (keeps_step h.1 input), ended_step h.1 h.2 input⟩)
      ⟨accounted_new hnew, ended_of_running rfl⟩ inputs
  exact hboth.2

/-! ## Independence -/

/-- The length of the text behind the placeholder of a permit. -/
def textLength (bytes : List UInt8) : ℕ := bytes.length - stampLength

/-- What a Data frame is charged: its prefix, its header and its text. -/
def dataLength (bytes : List UInt8) : ℕ := stampLength + textLength bytes

/-- The frames of the Data lane. -/
def dataFrames (w : WriterSystem) : List QueuedFrame := w.frames.filter fun frame =>
  frame.charge.slot = .data

/-- The bytes that are charged are the lengths of the frames that are reserved, queued or not
consumed. -/
theorem Accounted.charged_bytes (h : w.Accounted limits policy) :
    w.charged .bytes = (w.permits.map fun permit => dataLength permit.bytes).sum +
      (w.dataFrames.map fun frame => dataLength frame.bytes).sum := by
  have hpermits : w.permits.map (Charge.weight .bytes ∘ PreparedData.charge) =
      w.permits.map fun permit => dataLength permit.bytes := by
    refine List.map_congr_left fun permit hpermit => ?_
    rw [Function.comp_apply, (h.permits permit hpermit).charge]
    exact (Nat.add_sub_cancel' permit.placeholder_le).symm
  have hframes (frames : List QueuedFrame) (hcharged : ∀ frame ∈ frames, frame.Charged) :
      (frames.map (Charge.weight .bytes ∘ QueuedFrame.charge)).sum =
        ((frames.filter fun frame => frame.charge.slot = .data).map fun frame =>
          dataLength frame.bytes).sum := by
    induction frames with
    | nil => rfl
    | cons frame frames ih =>
      have hrest := ih fun other hother => hcharged other (List.mem_cons_of_mem _ hother)
      rw [List.map_cons, List.sum_cons, hrest]
      rcases hcharged frame List.mem_cons_self with hcharge | ⟨hlength, hcharge⟩
      · rw [List.filter_cons_of_neg (by simp [hcharge]), Function.comp_apply, hcharge]
        exact Nat.zero_add _
      · rw [List.filter_cons_of_pos (by simp [hcharge]), Function.comp_apply, hcharge,
          List.map_cons, List.sum_cons]
        exact congrArg (· + _) (Nat.add_sub_cancel' hlength).symm
  unfold charged charges
  rw [List.map_append, List.sum_append, List.map_map, List.map_map, hpermits, hframes _ h.frames]
  rfl

/-- **What the lanes of a writer owe each other**: nothing. -/
structure Independent (limits : EndpointLimits) (policy : WriterPolicy) (w : WriterSystem) :
    Prop where
  /-- No pool is charged beyond its capacity. -/
  charged_le : ∀ pool, w.charged pool ≤ pool.capacity limits policy
  /-- What is not charged is free. -/
  free_add_charged : ∀ pool, w.writer.free pool + w.charged pool = pool.capacity limits policy
  /-- Data is charged by the lengths of its frames. -/
  charged_bytes : w.charged .bytes = (w.permits.map fun permit => dataLength permit.bytes).sum +
    (w.dataFrames.map fun frame => dataLength frame.bytes).sum
  /-- Everything has come back once the FIFO is empty, and permits and reports have been dropped. -/
  returned : w.running = false ∨ w.writer.queue = [] ∧ w.active = none → w.permits = [] →
    w.reports = [] → w.consumed = [] →
      (∀ pool, w.writer.free pool = pool.capacity limits policy) ∧
        w.writer.freeSlots = placesOf limits
  /-- Only Control frames keep a Control frame out. -/
  full : ∀ frame now, (w.writer.tryAdmit frame now).1 = .error .full →
    w.charged (.slots .control) = limits.criticalLaneCapacity
  /-- Only Data frames keep a Data frame out. -/
  backpressure : ∀ body, (w.writer.tryReserveMessage body).1 = .error .backpressure →
    ∃ plan, prepareBody body = .ok plan ∧ (w.charged (.slots .data) = limits.dataLaneCapacity ∨
      policy.dataBytes < w.charged .bytes + (stampLength + plan.encodedLength))
  /-- A permit has its place, and a Data frame is admitted by it while the FIFO is open. -/
  reserved : ∀ permit ∈ w.permits, w.writer.queue.length < placesOf limits ∧
    ∀ frame now, (w.writer.admitReservedData permit frame now).1 = .ok () ∨
      w.writer.closed = true ∧ (w.writer.admitReservedData permit frame now).1 = .error .closed ∨
      ((∃ message, frame.message = .control message) ∨ now.checkedAdd policy.residence = none) ∧
        (w.writer.admitReservedData permit frame now).1 = .error .invariant

theorem Accounted.independent (h : w.Accounted limits policy) (hended : w.Ended)
    (hbytes : policy.dataBytes ≤ u32Max) : w.Independent limits policy where
  charged_le := h.charged_le
  free_add_charged := h.free_add_charged
  charged_bytes := h.charged_bytes
  returned hidle hpermits hreports hconsumed := by
    obtain ⟨hqueue, hactive⟩ : w.writer.queue = [] ∧ w.active = none :=
      hidle.elim (fun hstopped => (hended hstopped).2) id
    have hnothing : w.charges = [] := by
      unfold charges WriterSystem.frames
      rw [hpermits, hqueue, hactive, hreports, hconsumed]
      rfl
    refine ⟨fun pool => ?_, ?_⟩
    · have hpool := h.pools pool
      rw [hnothing] at hpool
      exact hpool.free_eq
    · have hplaces := h.places
      rw [hpermits, hqueue] at hplaces
      exact hplaces
  full frame now hfull := by
    rcases BoundedWriter.exhausted_of_full hfull with hslots | hplaces
    · exact h.charged_of_free hslots
    · exact (h.charged_of_full hplaces).1
  backpressure body hrefused := by
    obtain ⟨plan, hbody, hexhausted⟩ := BoundedWriter.exhausted_of_backpressure hrefused
    have hleft : w.writer.dataBytes + w.charged .bytes = policy.dataBytes :=
      h.free_add_charged .bytes
    refine ⟨plan, hbody, ?_⟩
    rcases hexhausted with hslots | hfew | hplaces | hwide
    · exact .inl (h.charged_of_free hslots)
    · exact .inr (by omega)
    · exact .inl (h.charged_of_full hplaces).2
    · exact .inr (by omega)
  reserved permit hpermit := by
    refine ⟨h.length_queue_lt hpermit, fun frame now => ?_⟩
    rcases BoundedWriter.admitReservedData_cases (h.permits permit hpermit) frame now with
      ⟨message, deadline, bytes, -, -, -, -, hadmitted⟩ | ⟨hclosed, hadmitted⟩ | ⟨hinvalid,
        hadmitted⟩
    · exact .inl (congrArg Prod.fst hadmitted)
    · exact .inr (.inl ⟨hclosed, congrArg Prod.fst hadmitted⟩)
    · exact .inr (.inr ⟨h.policy_eq ▸ hinvalid, congrArg Prod.fst hadmitted⟩)

/-- **The lanes of a writer are independent, and its task never blocks.**  In every state of every
run no pool is charged beyond its capacity, and what is not charged is free; a Control frame is
refused for capacity only if all Control slots are charged, and a Data frame only if all Data slots
are or too few bytes are left; a permit is never refused for capacity; and no report finds its
channel full.  The bound on `dataBytes` is that of its type, `u32`. -/
theorem lanes_are_independent {owner : ℕ} {writer : BoundedWriter}
    (hnew : BoundedWriter.new owner limits policy = .ok writer) (hbytes : policy.dataBytes ≤ u32Max)
    (inputs : List WriterInput) :
    (machine.after (.new writer) inputs).Independent limits policy ∧
      .reportsFull ∉ machine.history (.new writer) inputs := by
  refine ⟨(accounted_after hnew inputs).independent (ended_after hnew inputs) hbytes,
    fun hfull => ?_⟩
  obtain ⟨earlier, input, later, -, hoccurs⟩ := machine.exists_of_mem_history hfull
  exact reportsFull_notMem (accounted_after hnew earlier) input hoccurs

/-- With bytes for one frame without text, a second one waits until the permit of the first is
dropped. -/
theorem second_reservation_waits :
    let tick : Duration := ⟨1, by decide⟩
    let w := machine.after (.new ⟨0, false, 288, [], 32, 256, 14, .new .default, .default,
        ⟨14, tick, tick⟩⟩)
      [.reserve none]
    w.Independent .default ⟨14, tick, tick⟩ ∧ w.charged .bytes = 14 ∧
      (w.writer.tryReserveMessage none).1.isOk = false ∧
      ((w.step (.dropPermit 0)).1.writer.tryReserveMessage none).1.isOk = true :=
  ⟨(lanes_are_independent rfl (by decide) [.reserve none]).1, rfl, rfl, rfl⟩

end WriterSystem

end Hsms
end SecsRust
