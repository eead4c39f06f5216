import SecsRust.Hsms.Endpoint.Handle
import SecsRust.Hsms.Endpoint.Receiver
import SecsRust.Hsms.Generation.Transport.ReaderWorker

/-!
# The budgets of a validated configuration

A message on its way through the endpoint is charged five times, by formulas that differ:
the handle and the Driver add ten bytes to the body, compare with the bound and add four;
the Writer plans the frame; the Reader reserves a largest frame before it knows the body;
and what has been decoded is measured again, in its canonical form, before it is queued for
the application.  A configuration whose budgets were too small for one of these formulas
would construct, and would then refuse every large message at that stage.

`RuntimePolicy::validate` bounds all five budgets from below by the same number.
`idle_stages_accept` says that this suffices: a message within the size limit passes every
stage that does nothing else.

## The argument

`EndpointConfig.Admissible` collects what validation establishes, as inequalities between
the fields, and `validate_eq_ok_iff` shows that it establishes exactly this on every
target.  So a configuration is accepted on all targets or on none, and the rest of the file
can take any target whose `usize` has at least 32 bits.  The constructors check their
arguments once more, against `usize` and against the semaphores; `writerFromConfig` and its
siblings show that these checks succeed.

A stage is idle when it holds no permits.  Each stage has one lemma, about an idle instance
of it and a body that was measured within the limit.  The Reader is different in one
respect: it has the bytes of a peer, which need not be canonical.  What it decodes is
measured again, and `exists_plan_of_decodeText` shows that it is found no longer than the
bytes it came from.
-/

namespace SecsRust
namespace Hsms

open Secs2

universe u v

variable {W : Type u} {κ : Type v}

/-! ## What validation establishes -/

/-- The five byte budgets. -/
def RuntimePolicy.budgets (policy : RuntimePolicy) : List ℕ :=
  [policy.commandBytes, policy.replyBytes, policy.inboundBytes, policy.primaryQueueBytes,
    policy.writeBytes]

/-- **What an accepted configuration satisfies**, whatever the target.  The clauses are bounds
between numbers, without a word about the order of the checks. -/
structure EndpointConfig.Admissible (config : EndpointConfig) (now : MonoTime) : Prop where
  budgets : ∀ budget ∈ config.runtime.budgets, config.limits.maxMessageLength + 4 ≤ budget
  counts : ∀ count ∈ config.runtime.counts config.limits
    (config.limits.commandCapacity + config.runtime.replyCapacity + 1)
    (config.limits.criticalLaneCapacity + config.limits.dataLaneCapacity), count ≠ 0 ∧
      count ≤ maxCapacity
  durations : ∀ duration ∈ config.runtime.durations config.timeouts,
    duration.nanos ≠ 0 ∧ (now.checkedAdd duration).isSome = true
  linktest : ∀ duration ∈ config.timeouts.linktest, (now.checkedAdd duration).isSome = true

section

variable {target : Target} {config : EndpointConfig} {now : MonoTime}

theorem EndpointConfig.Admissible.of_validate (h : config.validate now target = .ok ()) :
    config.Admissible now := by
  unfold EndpointConfig.validate RuntimePolicy.validate at h
  split at h
  · cases h
  · next frame hframe =>
    split at h
    · cases h
    · next hbudgets =>
      split at h
      · cases h
      · next lanes hlanes =>
        split at h
        · cases h
        · next commands hcommands =>
          obtain ⟨count, hcount, hsucc⟩ := Option.bind_eq_some_iff.mp hcommands
          obtain rfl := Target.checkedAdd_eq_some hframe
          obtain rfl := Target.checkedAdd_eq_some hlanes
          obtain rfl := Target.checkedAdd_eq_some hcount
          obtain rfl := Target.checkedAdd_eq_some hsucc
          split_ifs at h with hcounts hdurations hlinktest
          refine ⟨?_, fun count hmem => ?_, fun duration hmem => ?_, fun duration hmem => ?_⟩
          · simp only [not_or, Nat.not_lt] at hbudgets
            simpa [RuntimePolicy.budgets] using hbudgets
          · have hbad : ¬ (count = 0 || count > maxCapacity) = true := fun hbad =>
              hcounts (List.any_eq_true.mpr ⟨count, hmem, hbad⟩)
            rw [Bool.or_eq_true, decide_eq_true_eq, decide_eq_true_eq, not_or, Nat.not_lt] at hbad
            exact hbad
          · have hbad : ¬ (duration.nanos = 0 || (now.checkedAdd duration).isNone) = true :=
              fun hbad =>
              hdurations (List.any_eq_true.mpr ⟨duration, hmem, hbad⟩)
            rw [Bool.or_eq_true, decide_eq_true_eq, not_or, Option.isNone_iff_eq_none] at hbad
            exact ⟨hbad.1, Option.ne_none_iff_isSome.mp hbad.2⟩
          · refine Option.ne_none_iff_isSome.mp fun hnone => hlinktest ?_
            rw [Option.mem_def.mp hmem, Option.any_some, hnone]
            rfl

theorem EndpointConfig.Admissible.count (h : config.Admissible now) {n : ℕ}
    (hmem : n ∈ config.runtime.counts config.limits
      (config.limits.commandCapacity + config.runtime.replyCapacity + 1)
      (config.limits.criticalLaneCapacity + config.limits.dataLaneCapacity)) :
    0 < n ∧ n ≤ 2 ^ 28 :=
  ⟨Nat.pos_of_ne_zero (h.counts n hmem).1, (h.counts n hmem).2⟩

/-- **A configuration is accepted on every target or on none.**  The bounds of a policy are such
that none of the checked additions can fail where a `usize` has 32 bits. -/
theorem validate_eq_ok_iff : config.validate now target = .ok () ↔ config.Admissible now := by
  refine ⟨.of_validate, fun h => ?_⟩
  have hsmall {n : ℕ} (hn : n ≤ 2 ^ 28) : n ≤ u32Max := hn.trans (by decide)
  have hcommand := h.count (n := config.runtime.commandBytes) (by simp [RuntimePolicy.counts])
  have hframe : config.limits.maxMessageLength + 4 ≤ config.runtime.commandBytes :=
    h.budgets _ (by simp [RuntimePolicy.budgets])
  have hlanes := h.count
    (n := config.limits.criticalLaneCapacity + config.limits.dataLaneCapacity)
    (by simp [RuntimePolicy.counts])
  have hcommands := h.count
    (n := config.limits.commandCapacity + config.runtime.replyCapacity + 1)
    (by simp [RuntimePolicy.counts])
  unfold EndpointConfig.validate RuntimePolicy.validate
  rw [Target.checkedAdd_of_le (hsmall (hframe.trans hcommand.2))]
  dsimp only
  have hbudgets := h.budgets
  simp only [RuntimePolicy.budgets, List.forall_mem_cons] at hbudgets
  rw [if_neg (by omega), Target.checkedAdd_of_le (hsmall hlanes.2)]
  dsimp only
  rw [Target.checkedAdd_of_le (hsmall ((Nat.le_succ _).trans hcommands.2)), Option.bind_some,
    Target.checkedAdd_of_le (hsmall hcommands.2)]
  dsimp only
  rw [if_neg, if_neg, if_neg]
  · intro hbad
    obtain ⟨duration, hsome, hnone⟩ := (Option.any_eq_true _ _).mp hbad
    have hgood := h.linktest duration hsome
    rw [Option.isNone_iff_eq_none.mp hnone] at hgood
    cases hgood
  · intro hbad
    obtain ⟨duration, hmem, hwrong⟩ := List.any_eq_true.mp hbad
    have hgood := h.durations duration hmem
    rw [Bool.or_eq_true, decide_eq_true_eq, Option.isNone_iff_eq_none] at hwrong
    rcases hwrong with hzero | hnone
    · exact hgood.1 hzero
    · rw [hnone] at hgood
      cases hgood.2
  · intro hbad
    obtain ⟨count, hmem, hwrong⟩ := List.any_eq_true.mp hbad
    have hgood := h.counts count hmem
    rw [Bool.or_eq_true, decide_eq_true_eq, decide_eq_true_eq] at hwrong
    omega

/-! ## The stages of a message when they are idle -/

/-- A Driver that holds no command bytes.  It is open, and its FIFO has the bounds of the
configuration. -/
structure SessionDriver.Idle (config : EndpointConfig) (driver : SessionDriver W κ) : Prop where
  maximum : driver.maximumMessageLength = config.limits.maxMessageLength
  capacity : driver.commandByteCapacity = config.runtime.commandBytes
  bytes : driver.commandBytes = 0

/-- A Writer with all its permits.  Its FIFO is open and empty. -/
structure BoundedWriter.Idle (config : EndpointConfig) (writer : BoundedWriter) : Prop where
  alive : writer.closed = false
  limits : writer.limits = config.limits
  encoder : writer.encoder = .new config.limits
  places : writer.freeSlots = config.limits.dataLaneCapacity + config.limits.criticalLaneCapacity
  slots : writer.dataSlots = config.limits.dataLaneCapacity
  bytes : writer.dataBytes = config.runtime.writeBytes

/-- A delivery whose application has received every Primary. -/
structure Delivery.Idle (config : EndpointConfig) (delivery : Delivery) : Prop where
  alive : delivery.primariesClosed = false
  empty : delivery.primaries = []
  capacity : delivery.primaryCapacity = config.limits.applicationEventCapacity
  bytes : delivery.bytes = config.runtime.primaryQueueBytes

/-- The Reader of a configuration. -/
def ReaderWorker.ofConfig (config : EndpointConfig) : ReaderWorker where
  reader := .new [] config.limits config.secs2Limits
  reports := []
  room := 1
  bytes := config.runtime.inboundBytes
  slots := 1
  frameBytes := config.limits.maxMessageLength + 4
  t8 := config.timeouts.t8

namespace EndpointConfig.Admissible

variable (h : config.Admissible now)
include h

/-- A largest frame fits each budget, and so a `u32`. -/
theorem frame_le {budget : ℕ} (hmem : budget ∈ config.runtime.budgets) :
    config.limits.maxMessageLength + 4 ≤ budget ∧ budget ≤ 2 ^ 28 := by
  have hcount : budget ∈ config.runtime.counts config.limits
      (config.limits.commandCapacity + config.runtime.replyCapacity + 1)
      (config.limits.criticalLaneCapacity + config.limits.dataLaneCapacity) := by
    simp only [RuntimePolicy.budgets, RuntimePolicy.counts, List.mem_cons] at hmem ⊢
    tauto
  exact ⟨h.budgets budget hmem, (h.count hcount).2⟩

theorem command_le : config.limits.maxMessageLength + 4 ≤ config.runtime.commandBytes :=
  (h.frame_le (by simp [RuntimePolicy.budgets])).1

theorem reply_le : config.limits.maxMessageLength + 4 ≤ config.runtime.replyBytes :=
  (h.frame_le (by simp [RuntimePolicy.budgets])).1

theorem primary_le : config.limits.maxMessageLength + 4 ≤ config.runtime.primaryQueueBytes :=
  (h.frame_le (by simp [RuntimePolicy.budgets])).1

theorem inbound_le : config.limits.maxMessageLength + 4 ≤ config.runtime.inboundBytes ∧
    config.runtime.inboundBytes ≤ 2 ^ 28 := h.frame_le (by simp [RuntimePolicy.budgets])

theorem write_le : config.limits.maxMessageLength + 4 ≤ config.runtime.writeBytes ∧
    config.runtime.writeBytes ≤ 2 ^ 28 := h.frame_le (by simp [RuntimePolicy.budgets])

/-- A frame has a length that every target can add up. -/
theorem frame_le_u32Max : config.limits.maxMessageLength + 4 ≤ u32Max :=
  (h.inbound_le.1.trans h.inbound_le.2).trans (by decide)

theorem readerNew : ReaderWorker.new config.limits config.secs2Limits config.timeouts.t8 1
    config.runtime.inboundBytes target = .ok (.ofConfig config) := by
  obtain ⟨hframe, hportable⟩ := h.inbound_le
  have hpermits : config.runtime.inboundBytes ≤ target.maxPermits := Target.le_maxPermits hportable
  have hone : 1 ≤ target.maxPermits := Target.le_maxPermits (by decide)
  have ht8 := (h.durations config.timeouts.t8 (by simp [RuntimePolicy.durations])).1
  unfold ReaderWorker.new
  rw [Target.checkedAdd_of_le h.frame_le_u32Max, Option.filter_some,
    if_pos (decide_eq_true h.frame_le_u32Max)]
  dsimp only
  rw [if_neg (by omega), if_neg ht8]
  rfl

/-- **The Reader of an accepted configuration.**  It is made on every target, with one slot and
all the inbound bytes. -/
theorem readerFromConfig : ReaderWorker.fromConfig config now target = .ok (.ofConfig config) := by
  unfold ReaderWorker.fromConfig
  rw [validate_eq_ok_iff.mpr h, h.readerNew]
  rfl

/-- **The Writer of an accepted configuration** is idle.  It is made on every target; none of its
own checks fails. -/
theorem writerFromConfig (owner : ℕ) :
    ∃ writer, BoundedWriter.fromConfig owner config now target = .ok writer ∧
      writer.Idle config := by
  obtain ⟨hframe, hportable⟩ := h.write_le
  have hpermits : config.runtime.writeBytes ≤ target.maxPermits := Target.le_maxPermits hportable
  have hheader := config.limits.header_le
  have hlanes := h.count
    (n := config.limits.criticalLaneCapacity + config.limits.dataLaneCapacity)
    (by simp [RuntimePolicy.counts])
  rw [Nat.add_comm] at hlanes
  have hlane : config.limits.dataLaneCapacity + config.limits.criticalLaneCapacity ≤
      target.maxPermits := Target.le_maxPermits hlanes.2
  have hresidence := (h.durations config.runtime.residence (by simp [RuntimePolicy.durations])).1
  have hwrite := (h.durations config.runtime.write (by simp [RuntimePolicy.durations])).1
  unfold BoundedWriter.fromConfig
  rw [validate_eq_ok_iff.mpr h]
  unfold BoundedWriter.new RuntimePolicy.writerPolicy
  rw [Target.checkedAdd_of_le (hlanes.2.trans (by decide))]
  dsimp only
  unfold hsmsHeaderLength at hheader
  unfold stampLength
  rw [if_neg (by omega), if_neg (by omega)]
  exact ⟨_, rfl, rfl, rfl, rfl, rfl, rfl, rfl⟩

/-- **The Driver of an accepted configuration** is idle.  It is made for any generation and over
any Writer. -/
theorem driverFromConfig (generation : ConnectionGeneration) (tokenOwner : ℕ) (writer : W) :
    ∃ driver : SessionDriver W κ,
      SessionDriver.fromConfig generation tokenOwner config writer now target =
      .ok driver ∧ driver.Idle config := by
  unfold SessionDriver.fromConfig
  rw [validate_eq_ok_iff.mpr h]
  exact ⟨_, rfl, rfl, rfl, rfl⟩

/-! ## A message within the size limit -/

section

variable {body : Option SecsItem} {plan : Secs2BodyPlan} (hbody : prepareBody body = .ok plan)
  (hfits : plan.encodedLength + 10 ≤ config.limits.maxMessageLength)
include hbody hfits

/-- The handle measures the body and finds it within the bound. -/
theorem messageLength_eq :
    (HsmsHandle.new config).messageLength target body = .ok (plan.encodedLength + 10) := by
  have hframe := h.frame_le_u32Max
  have hmaximum : (HsmsHandle.new config).maximumMessageLength = config.limits.maxMessageLength :=
    rfl
  unfold HsmsHandle.messageLength
  rw [hbody, hmaximum]
  dsimp only
  rw [Target.checkedAdd_of_le (by omega), Option.filter_some, if_pos (decide_eq_true hfits)]

/-- **An idle handle accepts the Primary.**  It takes one slot, one place and the bytes of the
frame, and nothing else of the handle changes. -/
theorem submitPrimary_eq (generation : ConnectionGeneration) {message : PrimaryMessage}
    (hmessage : message.body = body) :
    ((HsmsHandle.new config).submitPrimary target (.open_ generation) message).1 =
      .ok (generation, ⟨.ordinary, some (plan.encodedLength + 14)⟩) := by
  have hframe := h.frame_le_u32Max
  have hbudget := h.command_le
  have hslots := h.count (n := config.limits.commandCapacity) (by simp [RuntimePolicy.counts])
  have hcharge : (HsmsHandle.new config).primaryCharge target message =
      .ok (plan.encodedLength + 14) := by
    unfold HsmsHandle.primaryCharge
    rw [hmessage, h.messageLength_eq hbody hfits]
    dsimp only
    rw [Target.checkedAdd_of_le (by omega), Option.filter_some, if_pos (decide_eq_true (by omega))]
  have hopen : ¬ (HsmsHandle.new config).closed = true := Bool.false_ne_true
  have hslot : ¬ (HsmsHandle.new config).slots = 0 := hslots.1.ne'
  have hbytes : ¬ (HsmsHandle.new config).bytes < plan.encodedLength + 14 :=
    (show ¬ config.runtime.commandBytes < plan.encodedLength + 14 by omega)
  have hroom : ¬ (HsmsHandle.new config).room = 0 := Nat.succ_ne_zero _
  unfold HsmsHandle.submitPrimary
  rw [if_neg hopen]
  dsimp only
  rw [if_neg hslot, hcharge]
  dsimp only
  rw [if_neg hbytes, if_neg hroom]

/-- **An idle handle accepts the reply**, on an open or a draining connection.  The bytes are
those of the frame, and the slot is one of the replies. -/
theorem submitReply_eq {snapshot : GenerationSlotSnapshot} {generation : ConnectionGeneration}
    (hsnapshot : snapshot = .open_ generation ∨ snapshot = .draining generation)
    (intent : ReplyIntent)
    (token : ReplyToken) (havailable : intent = .secondary →
      token.normalSecondaryAvailable = true) :
    ((HsmsHandle.new config).submitReply target snapshot intent token body).1 =
      .ok (generation, ⟨.reply, if intent =
        .abandon then none else some (plan.encodedLength + 14)⟩) := by
  have hframe := h.frame_le_u32Max
  have hbudget := h.reply_le
  have hslots := h.count (n := config.runtime.replyCapacity) (by simp [RuntimePolicy.counts])
  have hcharge : (HsmsHandle.new config).replyCharge target intent body =
      .ok (if intent = .abandon then none else some (plan.encodedLength + 14)) := by
    unfold HsmsHandle.replyCharge
    rw [h.messageLength_eq hbody hfits]
    cases intent with
    | abandon => rfl
    | secondary => exact if_neg (by omega)
    | abort => exact if_neg (by omega)
  have hnormal : ¬ (intent = .secondary ∧ token.normalSecondaryAvailable = false) := by
    rintro ⟨hsecondary, hused⟩
    cases (havailable hsecondary).symm.trans hused
  have hopen : ¬ (HsmsHandle.new config).closed = true := Bool.false_ne_true
  have hslot : ¬ (HsmsHandle.new config).replySlots = 0 := hslots.1.ne'
  have hbytes : ¬ (HsmsHandle.new config).replyBytes <
      (if intent = .abandon then none else some (plan.encodedLength + 14)).getD 0 := by
    refine Nat.not_lt.mpr ?_
    split
    · exact Nat.zero_le _
    · exact (show plan.encodedLength + 14 ≤ config.runtime.replyBytes by omega)
  have hroom : ¬ (HsmsHandle.new config).room = 0 := Nat.succ_ne_zero _
  unfold HsmsHandle.submitReply
  rw [if_neg hopen]
  rcases hsnapshot with rfl | rfl
  all_goals
    dsimp only
    rw [if_neg hnormal, if_neg hslot, hcharge]
    dsimp only
    rw [if_neg hbytes, if_neg hroom]

/-- **An idle Driver accepts the body.**  The charge is the length of the frame, with its prefix. -/
theorem commandCharge_eq {driver : SessionDriver W κ} (hidle : driver.Idle config) :
    driver.commandCharge body target = .ok (plan.encodedLength + 14) := by
  have hframe := h.frame_le_u32Max
  have hbudget := h.command_le
  unfold SessionDriver.commandCharge
  rw [hbody, hidle.maximum, hidle.capacity, hidle.bytes]
  dsimp only
  rw [Target.checkedAdd_of_le (by omega), Option.filter_some, if_pos (decide_eq_true hfits)]
  dsimp only
  rw [Target.checkedAdd_of_le (by omega)]
  dsimp only
  rw [if_neg (by omega)]

/-- **An idle Writer reserves the frame.**  The plan that it makes is the one that the admission
will use. -/
theorem tryReserveMessage_isOk {writer : BoundedWriter} (hidle : writer.Idle config) :
    ∃ permit, (writer.tryReserveMessage body target).1 = .ok permit := by
  have hframe := h.frame_le_u32Max
  have hbudget := h.write_le.1
  have hlane := (h.count (n := config.limits.dataLaneCapacity) (by simp [RuntimePolicy.counts])).1
  have hencoder : writer.encoder.maxMessageLength = config.limits.maxMessageLength := by
    rw [hidle.encoder]
    rfl
  have hroom : writer.HasRoom (lengthPrefixBytes + (hsmsHeaderLength + plan.encodedLength)) := by
    unfold lengthPrefixBytes hsmsHeaderLength
    exact {
      running := hidle.alive
      slot := hidle.slots.symm ▸ hlane
      place := by
        rw [hidle.places]
        omega
      bytes := by
        rw [hidle.bytes]
        omega
      charged := by omega }
  obtain ⟨permit, hreserve, -⟩ := BoundedWriter.tryReserveMessage_of_room hbody
    (by unfold hsmsHeaderLength; omega) hroom
  exact ⟨permit, congrArg Prod.fst hreserve⟩

/-- A delivery charges fourteen bytes more than the body. -/
theorem deliveryCharge_eq : Delivery.charge target body = some (plan.encodedLength + 14) := by
  have hframe := h.frame_le_u32Max
  unfold Delivery.charge
  rw [hbody]
  dsimp only
  rw [Target.checkedAdd_of_le (by omega), Option.filter_some, if_pos (decide_eq_true (by omega))]

/-- **An idle delivery takes the Primary.**  The bytes are those of the canonical form, which is
not longer than what came over the wire. -/
theorem primary_isSome {delivery : Delivery} (hidle : delivery.Idle config)
    {primary : InboundPrimary}
    (hprimary : primary.message.body = body) : (delivery.primary target primary).isSome = true := by
  have hbudget := h.primary_le
  have hroom := h.count (n := config.limits.applicationEventCapacity)
      (by simp [RuntimePolicy.counts])
  unfold Delivery.primary
  rw [hprimary, h.deliveryCharge_eq hbody hfits]
  dsimp only
  rw [hidle.bytes, if_neg (by omega), hidle.alive, hidle.empty, hidle.capacity, if_neg]
  · rfl
  · rintro (hclosed | hfull)
    · cases hclosed
    · exact absurd hroom.1 (Nat.not_lt.mpr hfull)

end

end EndpointConfig.Admissible

/-- **What has been decoded is measured again, and found no longer than its Message Text.**  It
follows from what re-encoding does to lengths: the canonical form is the shortest. -/
theorem exists_plan_of_decodeText {limits : DecodeLimits} {text : Secs2.ByteSlice}
    {body : Option SecsItem}
    (h : decodeText limits text = .ok body) :
    ∃ plan, prepareBody body = .ok plan ∧ plan.encodedLength ≤ text.bytes.length := by
  unfold decodeText at h
  split at h
  · obtain rfl := Except.ok.inj h
    exact ⟨.absent, rfl, Nat.zero_le _⟩
  · cases hitem : decodeItem limits text with
    | error source => rw [hitem] at h; cases h
    | ok item =>
      rw [hitem] at h
      obtain rfl := Except.ok.inj h
      obtain ⟨nodes, hderives, hinput⟩ := (decodeItem_eq_ok.mp hitem).1
      obtain ⟨hdeclared, hshorter, -⟩ := written_all (derives_iff.mp hderives)
      rw [← hinput] at hshorter
      have hmeasure : measure item = .ok (item.preorder.flatMap nodeBytes).length :=
        measure_eq_ok.mpr ⟨hdeclared, rfl, hshorter.trans text.addressable⟩
      have hnew : ∃ plan, EncodedItemPlan.new item = .ok plan ∧
          plan.encodedLength = (item.preorder.flatMap nodeBytes).length := by
        unfold EncodedItemPlan.new
        split
        · next hfailed =>
          rw [hmeasure] at hfailed
          cases hfailed
        · next size hsize =>
          rw [hmeasure] at hsize
          exact ⟨_, rfl, (Except.ok.inj hsize).symm⟩
      obtain ⟨plan, hplan, hlength⟩ := hnew
      refine ⟨.item plan, ?_, ?_⟩
      · show (EncodedItemPlan.new item).map Secs2BodyPlan.item = _
        rw [hplan]
        rfl
      · exact hlength.trans_le hshorter

/-- The same for the Primary that a frame has been decoded to. -/
theorem exists_plan_of_interpret {limits : DecodeLimits} {raw : RawFrame} {message : DataMessage}
    (h : HsmsSsCodec.interpret limits raw = .message (.data message)) :
    ∃ plan, prepareBody message.body = .ok plan ∧ plan.encodedLength ≤ raw.text.bytes.length := by
  unfold HsmsSsCodec.interpret at h
  split at h
  · cases h
  · cases h
  · next frame hvalid =>
    have hraw : raw.text = frame.text := by
      rw [← validate_eq_ok.mp hvalid]
      rfl
    split at h
    · next body hdecode =>
      have hmessage : message = ⟨frame.header, body⟩ := by
        injection h with hmessage
        injection hmessage with hmessage
        exact hmessage.symm
      rw [hraw, hmessage]
      exact exists_plan_of_decodeText hdecode
    · cases h

end

/-- **A message within the size limit passes every stage that is idle.**  For a configuration that
`validate` accepts, on any target: the Reader, the Writer and the Driver can be built; a body whose
encoded length and the header fit the bound is accepted by the handle, as a Primary or a reply, by
the Driver and by the Writer; the reservation of the Reader never exceeds its budget and goes on
whenever nobody holds a report; and a Primary that a frame within the bound has been decoded to fits
the delivery, for a charge no larger than the frame. -/
theorem idle_stages_accept {target : Target} {config : EndpointConfig} {now : MonoTime}
    (hvalid : config.validate now target = .ok ()) :
    (∃ reader, ReaderWorker.fromConfig config now target = .ok reader ∧ ∀ inputs,
      let task := ReaderTask.machine.after (.start reader) inputs
      task.worker.frameBytes ≤ config.runtime.inboundBytes ∧
        (task.phase.IsReserving → task.worker.reports = [] → task.held = [] →
          task.reserve.1.phase ≠ task.phase)) ∧
    (∀ owner, ∃ writer, BoundedWriter.fromConfig owner config now target = .ok writer ∧
      writer.Idle config) ∧
    (∀ generation tokenOwner (writer : W), ∃ driver : SessionDriver W κ,
      SessionDriver.fromConfig generation tokenOwner config writer now target = .ok driver ∧
        driver.Idle config) ∧
    (∀ body plan, prepareBody body = .ok plan →
      plan.encodedLength + 10 ≤ config.limits.maxMessageLength →
      (∀ generation message, message.body = body →
        ((HsmsHandle.new config).submitPrimary target (.open_ generation) message).1 =
          .ok (generation, ⟨.ordinary, some (plan.encodedLength + 14)⟩)) ∧
      (∀ snapshot generation intent token, snapshot = .open_ generation ∨
        snapshot = .draining generation →
        (intent = .secondary → token.normalSecondaryAvailable = true) →
        ((HsmsHandle.new config).submitReply target snapshot intent token body).1 = .ok (generation,
          ⟨.reply, if intent = .abandon then none else some (plan.encodedLength + 14)⟩)) ∧
      (∀ driver : SessionDriver W κ, driver.Idle config →
        driver.commandCharge body target = .ok (plan.encodedLength + 14)) ∧
      ∀ writer : BoundedWriter, writer.Idle config →
        ∃ permit, (writer.tryReserveMessage body target).1 = .ok permit) ∧
    ∀ raw message, raw.Fits config.limits.maxMessageLength →
      HsmsSsCodec.interpret config.secs2Limits raw = .message (.data message) →
      ∃ charge, Delivery.charge target message.body = some charge ∧ charge ≤ raw.bytes.length ∧
        ∀ delivery : Delivery, delivery.Idle config → ∀ primary,
          primary.message.body = message.body →
          (delivery.primary target primary).isSome = true := by
  have h := validate_eq_ok_iff.mp hvalid
  refine ⟨⟨.ofConfig config, h.readerFromConfig, fun inputs => ?_⟩, fun owner =>
    h.writerFromConfig owner,
    fun generation tokenOwner writer => h.driverFromConfig generation tokenOwner writer,
    fun body plan hbody hfits => ⟨fun generation message hmessage =>
      h.submitPrimary_eq hbody hfits generation hmessage,
      fun snapshot generation intent token hsnapshot havailable =>
        h.submitReply_eq hbody hfits hsnapshot intent token havailable,
      fun driver hidle => h.commandCharge_eq hbody hfits hidle,
      fun writer hidle => h.tryReserveMessage_isOk hbody hfits hidle⟩,
    fun raw message hraw hmessage => ?_⟩
  · have hframe := h.inbound_le.1
    have hnew : ReaderWorker.new config.limits config.secs2Limits config.timeouts.t8 1
        config.runtime.inboundBytes = .ok (.ofConfig config) := h.readerNew
    have hbytes : (ReaderTask.machine.after (.start (.ofConfig config)) inputs).worker.frameBytes =
        config.limits.maxMessageLength + 4 :=
      ReaderTask.machine.invariant
        (I := fun task => task.worker.frameBytes = config.limits.maxMessageLength + 4)
        (fun task input hI => (ReaderTask.performs_perform task input).frameBytes_eq.trans hI) rfl
          inputs
    obtain ⟨-, hbudgeted, -⟩ := ReaderTask.machine_paced hnew inputs
    refine ⟨hbytes.trans_le hframe, fun hreserving hreports hheld => ?_⟩
    exact hbudgeted.reserves Nat.one_pos (hbytes.trans_le hframe) hreserving hreports hheld
  · obtain ⟨plan, hbody, hlength⟩ := exists_plan_of_interpret hmessage
    have hfits : plan.encodedLength + 10 ≤ config.limits.maxMessageLength := by
      unfold RawFrame.Fits hsmsHeaderLength at hraw
      omega
    refine ⟨plan.encodedLength + 14, h.deliveryCharge_eq hbody hfits, ?_,
      fun delivery hidle primary hprimary => h.primary_isSome hbody hfits hidle hprimary⟩
    · rw [raw.length_bytes]
      unfold lengthPrefixBytes hsmsHeaderLength
      omega

/-- The defaults, for an active endpoint of session 7. -/
def EndpointConfig.default : EndpointConfig where
  runtime := .default
  mode := .active
  sessionId := ⟨7, seven_unreserved⟩
  timeouts := .default
  limits := .default
  secs2Limits := .default

/-- The frame of the sample Primary. -/
def sampleFrame : RawFrame :=
  ⟨dataHeaderBytes samplePrimary.header, ⟨sampleBytes.drop 14, by decide⟩⟩

/-- The defaults on a 32-bit target: the body passes the handle, as a Primary and as a reply, the
Driver and the Writer for twenty-five bytes, and the frame that holds it is delivered for as many.
-/
theorem idle_stages_accept_default :
    (∃ reader, ReaderWorker.fromConfig .default .zero .thirtyTwo = .ok reader ∧
      reader.frameBytes ≤ EndpointConfig.default.runtime.inboundBytes) ∧
    (∃ writer permit, BoundedWriter.fromConfig 0 .default .zero .thirtyTwo = .ok writer ∧
      (writer.tryReserveMessage samplePrimary.body .thirtyTwo).1 = .ok permit) ∧
    (∃ driver : SessionDriver Unit Unit,
      SessionDriver.fromConfig ⟨1⟩ 0 .default () .zero .thirtyTwo = .ok driver ∧
        driver.commandCharge samplePrimary.body .thirtyTwo = .ok 25) ∧
    ((HsmsHandle.new .default).submitPrimary .thirtyTwo (.open_ ⟨1⟩)
      ⟨⟨1, by decide⟩, ⟨1⟩, samplePrimary.body⟩).1 = .ok (⟨1⟩, ⟨.ordinary, some 25⟩) ∧
    ((HsmsHandle.new .default).submitReply .thirtyTwo (.draining ⟨1⟩) .secondary
      ⟨0, ⟨0⟩, ⟨1⟩, true⟩ samplePrimary.body).1 = .ok (⟨1⟩, ⟨.reply, some 25⟩) ∧
    ∃ charge, Delivery.charge .thirtyTwo samplePrimary.body = some charge ∧
      charge ≤ sampleFrame.bytes.length := by
  have hvalid : EndpointConfig.default.validate .zero .thirtyTwo = .ok () := rfl
  have hbody : ∃ plan, prepareBody samplePrimary.body = .ok plan ∧ plan.encodedLength = 11 :=
    ⟨_, rfl, rfl⟩
  obtain ⟨plan, hbody, hlength⟩ := hbody
  obtain ⟨⟨reader, hreader, hruns⟩, hwriters, hdrivers, haccepts, hdelivers⟩ :=
    idle_stages_accept (W := Unit) (κ := Unit) hvalid
  obtain ⟨hprimary, hreply, hdriver, hwriter⟩ :=
    haccepts samplePrimary.body plan hbody (by rw [hlength]; decide)
  rw [hlength] at hprimary hreply hdriver
  obtain ⟨writer, hnew, hidle⟩ := hwriters 0
  obtain ⟨permit, hpermit⟩ := hwriter writer hidle
  obtain ⟨driver, hstart, hempty⟩ := hdrivers ⟨1⟩ 0 ()
  obtain ⟨charge, hcharge, hfits, -⟩ := hdelivers sampleFrame ⟨_, samplePrimary.body⟩
    (by unfold RawFrame.Fits; decide) rfl
  exact ⟨⟨reader, hreader, (hruns []).1⟩, ⟨writer, permit, hnew, hpermit⟩,
    ⟨driver, hstart, hdriver driver hempty⟩, hprimary _ _ rfl,
    hreply _ _ .secondary _ (.inr rfl) fun _ => rfl, charge, hcharge, hfits⟩

end Hsms
end SecsRust
