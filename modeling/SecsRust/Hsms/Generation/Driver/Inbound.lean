import SecsRust.Hsms.Core.Session.Delivery
import SecsRust.Hsms.Generation.Driver.Closing
import SecsRust.Hsms.Generation.Driver.LastBatch

/-!
# Inbound Primaries of the Driver

What Core delivers goes to the end of the Driver's queue, and `take_inbound` takes the
first.  Where the queue is full the Primary is lost, and then the Driver closes with
`ApplicationBackpressure`.  An application that reads the queue must not be able to miss one
Primary and see the next.

The proof looks at one call at a time.  A call that gives Core no message delivers nothing
and leaves the queue alone (`Retains`).  A message delivers at most one Primary, and it is
either the last in the queue now, or it is lost and the Driver is closing (`Gains`,
`received_cases`).  In a batch the delivery comes first, so a failure behind it cannot take
it back; and the functions around it, the deadlines before and the notices behind, retain.
`SessionDriver.inbound_cases` is the case analysis for every call.

Over a run this becomes an equation between lists.  `Fed` says that what has been taken,
followed by what is queued, is an initial part of what Core has delivered, that at most one
delivery is missing at the end of it, and that a missing one means a close for
`ApplicationBackpressure`.  After a close Core gets no further message, so the gap can never
be followed by anything: `inbound_primaries_have_no_gap`.
-/

namespace SecsRust
namespace Hsms

open Std Secs2 SessionDriver WriterIngress

universe u v

variable {W : Type u} {κ : Type v}

/-- The Primary that the Driver makes of a delivery. -/
def SessionDriver.primary (driver : SessionDriver W κ)
    (delivery : DataMessage × Option ReplyCapabilityId) :
    InboundPrimary :=
  let header := delivery.1.header
  ⟨⟨header.stream, header.function, delivery.1.body⟩,
    ((delivery.2.map (driver.mint header)).map .reply).getD .data,
    .fromData driver.generation header⟩

/-- The Driver is the one that mints the same tokens, in the same generation. -/
def SessionDriver.minter (driver : SessionDriver W κ) : ℕ × ConnectionGeneration :=
  (driver.tokenOwner, driver.generation)

theorem SessionDriver.primary_kept {d d' : SessionDriver W κ} (h : d'.minter = d.minter) :
    d'.primary = d.primary := by
  obtain ⟨howner, hgeneration⟩ := Prod.mk.inj h
  funext delivery
  unfold primary mint
  rw [howner, hgeneration]

/-- The Data frame of a message, if it is one. -/
def ProtocolMessage.asData : ProtocolMessage → Option DataMessage
  | .data message => some message
  | .control _ => none

/-- What Core delivers in a call. -/
def DriverEffect.delivers : DriverEffect κ → List (DataMessage × Option ReplyCapabilityId)
  | called core input => deliveries (core.handle input).actions
  | _ => []

/-- What Core has delivered. -/
def deliveredIn (past : List (DriverEffect κ)) : List (DataMessage × Option ReplyCapabilityId) :=
  past.flatMap DriverEffect.delivers

theorem deliveredIn_append (past effects : List (DriverEffect κ)) :
    deliveredIn (past ++ effects) = deliveredIn past ++ deliveredIn effects := List.flatMap_append

theorem deliveredIn_of_plain {effects : List (DriverEffect κ)}
    (h : ∀ effect ∈ effects, effect.plain = true) : deliveredIn effects = [] := by
  refine List.flatMap_eq_nil_iff.mpr fun effect hmem => ?_
  have hplain := h effect hmem
  cases effect <;> first | rfl | cases hplain

/-- A round without a message delivers nothing. -/
theorem SessionCore.deliveries_handle_of_silent {core : SessionCore} (hc : Coherent none core)
    {input : Input}
    (h : input.isMessage = false) : deliveries (core.handle input).actions = [] := by
  rcases deliveries_handle hc input with hnone | ⟨message, _, now, _, rfl, -, -⟩
  · exact hnone
  · cases h

/-! ## Silent steps -/

section

variable [WriterIngress W]

theorem DriverStep.minter_kept {admits : Bool} {stage stage' : DriverStage W κ}
    {effects : List (DriverEffect κ)} (hstep : DriverStep admits stage effects stage') :
    stage'.driver.minter = stage.driver.minter := by
  cases hstep <;> rfl

/-- **A step without a message and without a taking** leaves the queue, if nothing is to be put
there. -/
theorem DriverStep.inbound_of_silent {admits : Bool} {stage stage' : DriverStage W κ}
    {effects : List (DriverEffect κ)} (hstep : DriverStep admits stage effects stage')
    (hsound : Sound stage)
    (hpending : deliveries stage.pending = [])
    (hmessages : messagesIn effects = 0) (htaken : takenIn effects = []) :
    stage'.driver.inbound = stage.driver.inbound ∧ deliveries stage'.pending = [] ∧
      deliveredIn effects = [] := by
  have hcall {d : SessionDriver W κ} {effects : List (DriverEffect κ)} {input : Input}
      (hc : Coherent none d.core) (h : input.isMessage = false)
      (hplain : ∀ effect ∈ effects, effect.plain = true) :
      deliveries (d.core.handle input).actions = [] ∧
        deliveredIn (effects ++ [.called d.core input]) = [] := by
    have hnone := SessionCore.deliveries_handle_of_silent hc h
    refine ⟨hnone, ?_⟩
    rw [deliveredIn_append, deliveredIn_of_plain hplain]
    exact (List.append_nil _).trans hnone
  have hnothing : ∀ effect ∈ ([] : List (DriverEffect κ)), effect.plain = true := fun _ hmem =>
    absurd hmem List.not_mem_nil
  cases hstep with
  | @call d input allowed =>
    have hquiet : input.isMessage = false := by
      rw [← Bool.not_eq_true]
      intro hmessage
      have hone : messagesIn [DriverEffect.called (κ := κ) d.core input] = 1 := by
        show [input].countP Input.isMessage = 1
        rw [List.countP_cons_of_pos hmessage]
        rfl
      omega
    exact ⟨rfl, hcall hsound.coherent hquiet hnothing⟩
  | @present d accepted rest value now live queue unblocked next =>
    have hquiet : (accepted.kind.coreInput ⟨value⟩ now).isMessage = false := by
      cases accepted.kind <;> rfl
    have hplain : ∀ effect ∈ d.dischargeEffects accepted.byteCharge ++
        [DriverEffect.presented ⟨value⟩ accepted], effect.plain = true := by
      intro effect hmem
      rcases List.mem_append.mp hmem with hmem | hmem
      · exact plain_dischargeEffects d _ effect hmem
      · rw [List.mem_singleton.mp hmem]
        rfl
    obtain ⟨hnone, hdelivered⟩ := hcall hsound.coherent hquiet hplain
    rw [List.append_assoc] at hdelivered
    exact ⟨rfl, hnone, hdelivered⟩
  | fail reason failedWriteId now => exact ⟨rfl, hcall hsound.coherent rfl hnothing⟩
  | deliver room => cases hpending
  | @takeInbound d origin =>
    refine ⟨?_, rfl, rfl⟩
    dsimp only
    generalize d.inbound = inbound at htaken ⊢
    cases inbound with
    | nil => rfl
    | cons primary rest => cases htaken
  | send _ _ | sendAgain _ _ | observe | settle _ _ | closeTransport _ _ | accept _ _ _ _ _ _
  | orphan _ _
  | notice _ | settleWrite _ => exact ⟨rfl, hpending, rfl⟩
  | @close d origin reason barrier pending =>
    exact ⟨rfl, hpending, deliveredIn_of_plain (plain_closeEffects _ _ _)⟩
  | shutDown reason terminal => exact ⟨rfl, rfl, deliveredIn_of_plain (plain_closeEffects _ _ _)⟩
  | idle _ | drain | adjust _ _ _ => exact ⟨rfl, hpending, rfl⟩
  | abandon _ | rest _ | stopWriter _ => exact ⟨rfl, rfl, rfl⟩
  | @reject d origin accepted rest error queue =>
    refine ⟨rfl, rfl, deliveredIn_of_plain fun effect hmem => ?_⟩
    rcases List.mem_append.mp hmem with hmem | hmem
    · exact plain_dischargeEffects d _ effect hmem
    · rw [List.mem_singleton.mp hmem]
      rfl
  | @answer d origin effect returns =>
    refine ⟨rfl, rfl, ?_⟩
    cases effect <;> first | rfl | cases returns

/-- What steps without a message and without a taking leave. -/
theorem inbound_of_silent {admits : Bool} {stage stage' : DriverStage W κ} {effects : List
    (DriverEffect κ)}
    (hsteps : Steps (DriverStep admits) stage effects stage') (hsound : Sound stage)
    (hpending : deliveries stage.pending = [])
    (hmessages : messagesIn effects = 0) (htaken : takenIn effects = []) :
    stage'.driver.inbound = stage.driver.inbound ∧ deliveredIn effects = [] := by
  have hrun := hsteps.accumulates_nil
    (I := fun past reached => (messagesIn past = 0 → takenIn past = [] →
      reached.driver.inbound = stage.driver.inbound ∧ deliveries reached.pending = [] ∧
        deliveredIn past = []) ∧
        Sound reached)
    (fun past reached effects next hI hstep => by
      refine ⟨fun hmessages htaken => ?_, hI.2.step hstep⟩
      rw [messagesIn_append] at hmessages
      rw [takenIn_append] at htaken
      obtain ⟨hbefore, hafter⟩ := List.append_eq_nil_iff.mp htaken
      obtain ⟨hinbound, hnone, hdelivered⟩ := hI.1 (by omega) hbefore
      obtain ⟨hinbound', hnone', hdelivered'⟩ :=
        hstep.inbound_of_silent hI.2 hnone (by omega) hafter
      exact ⟨hinbound'.trans hinbound, hnone', by
        rw [deliveredIn_append, hdelivered, hdelivered']; rfl⟩)
    ⟨fun _ _ => ⟨rfl, hpending, rfl⟩, hsound⟩
  obtain ⟨hinbound, -, hdelivered⟩ := hrun.1 hmessages htaken
  exact ⟨hinbound, hdelivered⟩

end

/-! ## Calls -/

namespace Round

variable {r r' r'' : Round W κ} {now : MonoTime}

/-- Nothing is delivered, and the queue stays. -/
def Retains (r r' : Round W κ) : Prop :=
  r'.driver.inbound = r.driver.inbound ∧ ∃ effects, r'.effects = r.effects ++ effects ∧
    deliveredIn effects = []

theorem Retains.trans (h : Retains r r') (h' : Retains r' r'') : Retains r r'' := by
  obtain ⟨hinbound, effects, heq, hnone⟩ := h
  obtain ⟨hinbound', effects', heq', hnone'⟩ := h'
  refine ⟨hinbound'.trans hinbound, effects ++ effects', by rw [heq', heq, List.append_assoc], ?_⟩
  rw [deliveredIn_append, hnone, hnone']
  rfl

theorem Retains.emit (r : Round W κ) {effect : DriverEffect κ} (h : effect.plain = true) :
    Retains r (r.emit effect) :=
  ⟨rfl, [effect], rfl, deliveredIn_of_plain fun other hmem => by rwa [List.mem_singleton.mp hmem]⟩

variable [WriterIngress W]

/-- Steps that give Core no message. -/
theorem Leads.retains {admits : Bool} {o o' : Option (SessionCore × Input)} {p p' : List CoreAction}
    (h : Leads admits r o p r' o' p') (hsilent : ∃ effects, r'.effects = r.effects ++ effects ∧
      messagesIn effects = 0 ∧ takenIn effects = [])
    (hsound : Sound ⟨r.driver, o, p⟩) (hp : deliveries p = []) : Retains r r' := by
  obtain ⟨effects, heq, hsteps⟩ := h
  obtain ⟨effects', heq', hmessages, htaken⟩ := hsilent
  obtain rfl : effects' = effects := List.append_cancel_left (heq'.symm.trans heq)
  obtain ⟨hinbound, hdelivered⟩ := inbound_of_silent hsteps hsound hp hmessages htaken
  exact ⟨hinbound, _, heq, hdelivered⟩

/-- The first action of a batch. -/
theorem applyBatch_cons {action : CoreAction} {permit permit' : Option (DataPermit W)}
    (h : r.applyAction permit action = (r', permit', none)) (actions : List CoreAction)
    (now : MonoTime)
    (firstReason : Option GenerationCloseReason) :
    r.applyBatch (action :: actions) permit now firstReason =
      r'.applyBatch actions permit' now firstReason := by
  have heach : r.applyEach permit (action :: actions) = r'.applyEach permit' actions := by
    conv_lhs => unfold applyEach
    rw [h]
  unfold applyBatch applyActionBatch
  rw [heach]

/-- The first action of a batch fails. -/
theorem applyBatch_failed {action : CoreAction} {failure : ActionApplicationFailure}
    (h : r.applyAction none action = (r', none, some failure)) (actions : List CoreAction)
    (now : MonoTime)
    (firstReason : Option GenerationCloseReason) :
    r.applyBatch (action :: actions) none now firstReason =
      r'.handleActionFailureWithReason failure now firstReason := by
  have heach : r.applyEach none (action :: actions) = (r', none, some failure) := by
    unfold applyEach
    rw [h]
  unfold applyBatch applyActionBatch
  rw [heach]

theorem closing_received (r : Round W κ) (actions : List CoreAction) (now : MonoTime) :
    ((r.applyActions actions now).takeNotice.emit (.returned true)).driver.closing =
      (r.applyBatch actions none now none).driver.closing := by
  have htake (r : Round W κ) : r.takeNotice.driver.closing = r.driver.closing := by
    unfold takeNotice
    split
    · rfl
    · rfl
  show (r.applyActions actions now).takeNotice.driver.closing = _
  rw [htake]
  unfold applyActions
  rw [finishCloseIfReady_frame]
  rfl

/-- The effects of a delivery. -/
def mintedEffects (driver : SessionDriver W κ) (message : DataMessage)
    (capability : Option ReplyCapabilityId) :
    List (DriverEffect κ) :=
  ((capability.map (driver.mint message.header)).map .minted).toList

omit [WriterIngress W] in
theorem plain_mintedEffects (driver : SessionDriver W κ) (message : DataMessage)
    (capability : Option ReplyCapabilityId) :
    ∀ effect ∈ mintedEffects driver message capability, effect.plain = true := by
  intro effect hmem
  obtain ⟨token, -, rfl⟩ := Option.map_eq_some_iff.mp (Option.mem_toList.mp hmem)
  rfl

/-- The Primary of this message has been delivered.  It is the last in the queue; or it is lost, and
the Driver closes. -/
def Gains (message : Option DataMessage) (r r' : Round W κ) : Prop :=
  r.driver.closing = none ∧ ∃ effects delivery, r'.effects = r.effects ++ effects ∧
    deliveredIn effects = [delivery] ∧ message = some delivery.1 ∧
      (r'.driver.inbound = r.driver.inbound ++ [r.driver.primary delivery] ∨
        r'.driver.inbound = r.driver.inbound ∧
          r'.driver.closing.map ClosingState.reason = some .applicationBackpressure)

/-- A batch without a delivery, and what follows it. -/
theorem retains_received {core : SessionCore} {input : Input} (hlive : input.isTerminal = false)
    {actions : List CoreAction} (h : Booked ⟨r.driver, some (core, input), actions⟩)
    (hnone : deliveries actions = []) (now : MonoTime) :
    Retains r ((r.applyActions actions now).takeNotice.emit (.returned true)) := by
  have hbatch : Leads false r (some (core, input)) actions
      (r.applyBatch actions none now none) none [] :=
    leads_batch core hlive none actions now none
  exact (hbatch.trans (leads_finishCloseIfReady.trans (performs_takeNotice.emit rfl))).retains
    ((Calls.received ordinary_silent r actions now).no_message fun _ _ => rfl) h.sound hnone

/-- A delivery for which there is no room, and what follows it. -/
theorem retains_refused {call : SessionCore × Input} {message : DataMessage}
    {capability : Option ReplyCapabilityId} {rest : List CoreAction}
    (h : Booked ⟨r.driver, some call, .deliverPrimary message capability :: rest⟩)
    (haccepts : r.driver.core.AcceptsTime now) (hopen : r.driver.closing = none)
    (hfull : r.driver.inboundCapacity ≤ r.driver.inbound.length) :
    let r' := (r.applyActions (.deliverPrimary message capability :: rest) now).takeNotice.emit
        (.returned true)
    Retains r r' ∧ r'.driver.closing.map ClosingState.reason = some .applicationBackpressure := by
  intro r'
  have hfails : r.applyAction none (.deliverPrimary message capability) = (r, none,
      some .inboundFull) :=
    if_pos hfull
  have hbatch : r.applyBatch (.deliverPrimary message capability :: rest) none now none =
      r.shutdownAfterDriverFailure .applicationBackpressure none now :=
        applyBatch_failed hfails rest now none
  have hclosing :
      (r.shutdownAfterDriverFailure .applicationBackpressure none now).driver.closing.isSome =
        true :=
    closing_shutdownAfterDriverFailure _ _ _ _
  have hbare : Sound ⟨r.driver, some call, []⟩ :=
    h.sound.keep rfl (fun _ entry hentry => ⟨entry, hentry⟩) rfl rfl fun _ hmem =>
      absurd hmem List.not_mem_nil
  have hcalls : Calls Silent r r' :=
    Calls.received ordinary_silent r (.deliverPrimary message capability :: rest) now
  have hlead : Leads false r (some call) [] r' none [] := by
    have hends : Leads false r (some call) []
        (r.shutdownAfterDriverFailure .applicationBackpressure none now)
        none [] :=
      (leads_shutdownAfterDriverFailure
        (leads_callShutdown .applicationBackpressure none now)).trans
        (leads_rest fun _ => hclosing)
    rw [← hbatch] at hends
    exact hends.trans (leads_finishCloseIfReady.trans (performs_takeNotice.emit rfl))
  refine ⟨hlead.retains (hcalls.no_message fun _ _ => rfl) hbare rfl, ?_⟩
  have hcloses : ClosesFor .applicationBackpressure r.driver
      (r.shutdownAfterDriverFailure .applicationBackpressure none now).driver :=
    closesFor_shutdownAfterDriverFailure h haccepts fun hfailed => by cases hfailed
  rw [closing_received, hbatch]
  exact hcloses.reason_eq hopen hclosing

/-- **What a message does to the queue**, once the deadlines that are due have been processed. -/
theorem received_cases (h : Booked ⟨r.driver, none, []⟩) (hopen : r.driver.closing = none)
    (message : ProtocolMessage) (now : MonoTime) :
    let called := r.callCore (.message message now)
    let r' := (called.1.applyActions called.2 now).takeNotice.emit (.returned true)
    Retains r r' ∨ Gains message.asData r r' := by
  intro called r'
  have hcalled : Booked ⟨called.1.driver, some (r.driver.core, .message message now),
      called.2⟩ := by
    refine h.leads (leads_callCore ?_)
    rw [hopen]
    rfl
  have hdelivered : deliveredIn [DriverEffect.called (κ := κ) r.driver.core
      (.message message now)] =
      deliveries called.2 := List.append_nil _
  have hcoherent : Coherent none r.driver.core := h.sound.coherent
  rcases SessionCore.deliveries_handle hcoherent (.message message now) with
    hnone | ⟨data, capability, now', rest, heq, haccepts, hactions, hrest⟩
  · have hcall : Retains r called.1 :=
      ⟨rfl, [.called r.driver.core (.message message now)], rfl, hdelivered.trans hnone⟩
    exact Or.inl (hcall.trans (retains_received rfl hcalled hnone now))
  · obtain ⟨hmessage, rfl⟩ := Input.message.inj heq
    have hmessage : message.asData = some data := congrArg ProtocolMessage.asData hmessage
    have hactions : called.2 = .deliverPrimary data capability :: rest := hactions
    have haccepted : (r.driver.core.handle (.message message now)).core.AcceptsTime now :=
      SessionCore.acceptsTime_handle hcoherent haccepts
    have haccepts : called.1.driver.core.AcceptsTime now := haccepted
    have hone : deliveries called.2 = [(data, capability)] := by
      rw [hactions]
      show (data, capability) :: deliveries rest = _
      rw [hrest]
    refine Or.inr ⟨hopen, ?_⟩
    rw [hactions] at hcalled
    by_cases hroom : called.1.driver.inbound.length < called.1.driver.inboundCapacity
    · have happlied : called.1.applyAction none (.deliverPrimary data capability) =
          (called.1.deliver data capability, none, none) := if_neg (Nat.not_le.mpr hroom)
      have hbooked : Booked ⟨(called.1.deliver data capability).driver,
          some (r.driver.core, .message message now), rest⟩ :=
            hcalled.leads (.step (.deliver hroom))
      obtain ⟨hinbound, effects, heffects, hnone⟩ :=
        retains_received (r := called.1.deliver data capability) rfl hbooked hrest now
      have hbatch : called.1.applyBatch called.2 none now none =
          (called.1.deliver data capability).applyBatch rest none now none := by
        rw [hactions]
        exact applyBatch_cons happlied rest now none
      have hr' : r' =
          ((called.1.deliver data capability).applyActions rest now).takeNotice.emit
          (.returned true) := by
        show (called.1.applyBatch called.2 none now none).finishCloseIfReady.takeNotice.emit
            (.returned true) =
          _
        rw [hbatch]
        rfl
      rw [← hr'] at hinbound heffects
      have hminted : deliveredIn (mintedEffects called.1.driver data capability) = [] :=
        deliveredIn_of_plain (plain_mintedEffects _ _ _)
      refine ⟨.called r.driver.core (.message message now) ::
        (mintedEffects called.1.driver data capability ++ effects), (data, capability),
          ?_, ?_, hmessage,
        Or.inl hinbound⟩
      · show r'.effects = r.effects ++ ([_] ++ (mintedEffects called.1.driver data
            capability ++ effects))
        rw [heffects, ← List.append_assoc, ← List.append_assoc]
        rfl
      · show deliveredIn ([_] ++ (mintedEffects called.1.driver data capability ++ effects)) = _
        rw [deliveredIn_append, deliveredIn_append, hdelivered, hone, hminted, hnone]
        rfl
    · obtain ⟨⟨hinbound, effects, heffects, hnone⟩, hreason⟩ :=
        retains_refused hcalled haccepts hopen (Nat.not_lt.mp hroom)
      rw [← hactions] at hinbound heffects hreason
      refine ⟨_ :: effects, (data, capability), heffects.trans (List.append_assoc _ _ _), ?_,
        hmessage, Or.inr ⟨hinbound, hreason⟩⟩
      show deliveredIn ([_] ++ effects) = _
      rw [deliveredIn_append, hdelivered, hone, hnone]
      rfl

theorem Leads.minter_kept {admits : Bool} {o o' : Option (SessionCore × Input)}
    {p p' : List CoreAction}
    (h : Leads admits r o p r' o' p') : r'.driver.minter = r.driver.minter := by
  obtain ⟨effects, -, hsteps⟩ := h
  exact hsteps.preserves (I := fun stage => stage.driver.minter = r.driver.minter)
    (fun _ _ _ hI hstep => hstep.minter_kept.trans hI) rfl

/-- What nothing is delivered in comes before what one Primary is delivered in. -/
theorem Gains.of_retains {message : Option DataMessage} (h : Retains r r')
    (hperforms : Performs false r r')
    (h' : Gains message r' r'') : Gains message r r'' := by
  obtain ⟨hinbound, effects, heffects, hnone⟩ := h
  obtain ⟨hopen, effects', delivery, heffects', hone, hmessage, hqueued⟩ := h'
  refine ⟨?_, effects ++ effects', delivery, by rw [heffects', heffects, List.append_assoc],
    ?_, hmessage, ?_⟩
  · rw [← Option.not_isSome_iff_eq_none]
    intro hclosing
    have hkept := Leads.closing_kept hperforms hclosing
    rw [hopen] at hkept
    cases hkept
  · rw [deliveredIn_append, hnone, hone]
    rfl
  · rw [hinbound, primary_kept (Leads.minter_kept hperforms)] at hqueued
    exact hqueued

theorem onMessage_cases (h : Booked ⟨r.driver, none, []⟩) (message : ProtocolMessage)
    (now : MonoTime) :
    Retains r (r.onMessage message now) ∨ Gains message.asData r (r.onMessage message now) := by
  have hdue : Performs false r (r.processDueDeadlines now) := performs_processDueDeadlines now
  have hretains : Retains r (r.processDueDeadlines now) :=
    hdue.retains ((Calls.processDueDeadlines ordinary_silent r now).no_message fun _ _ =>
      rfl) h.sound rfl
  have hbooked : Booked ⟨(r.processDueDeadlines now).driver, none, []⟩ := h.leads hdue
  unfold onMessage
  dsimp only
  split
  · exact Or.inl (hretains.trans (.emit _ rfl))
  · next hopen =>
    rcases received_cases hbooked
      (Option.not_isSome_iff_eq_none.mp hopen) message now with hstays | hgains
    · exact Or.inl (hretains.trans hstays)
    · exact Or.inr (hgains.of_retains hretains hdue)

end Round

/-- The Data frame that an operation gives to Core. -/
def DriverInput.data : DriverInput κ → Option DataMessage
  | .decoded (.message message) .. => message.asData
  | _ => none

/-- **What a call does to the queue**, if it is not `take_inbound`.  It retains, or it gains the
one Primary that the call has delivered. -/
theorem SessionDriver.inbound_cases [WriterIngress W] {d : SessionDriver W κ}
    (h : Booked ⟨d, none, []⟩)
    {input : DriverInput κ} (htakes : input ≠ .takeInbound) :
    Round.Retains (.start d) (perform (.start d) input) ∨
      Round.Gains input.data (.start d) (perform (.start d) input) := by
  by_cases hreads : ∃ message rawHeader now, input = .decoded (.message message) rawHeader now
  · obtain ⟨message, rawHeader, now, rfl⟩ := hreads
    exact Round.onMessage_cases (r := .start d) h message now
  · have hperforms := Round.perform_performs (.start d) input
    refine Or.inl (hperforms.retains ?_ h.sound rfl)
    cases input with
    | decoded step rawHeader now =>
      exact (Round.Calls.onDecodeStep Round.ordinary_silent (.start d)
        (fun message heq => hreads ⟨message, rawHeader, now, by rw [heq]⟩) rawHeader now
        fun _ _ => rfl).no_message fun _ _ => rfl
    | _ => exact Round.Calls.perform_silent (.start d) htakes rfl

/-! ## Runs -/

/-- **What has come of the deliveries**, after the messages `read`.  The order of the deliveries
is that of the messages, so a gap would show as a missing element and not as a changed order. -/
structure Fed (read : List DataMessage) (past : List (DriverEffect κ)) (d : SessionDriver W κ) :
    Prop where
  /-- The taken Primaries and the queued ones are the first that Core has delivered. -/
  queued : ∃ kept lost, deliveredIn past = kept ++ lost ∧
    kept.map d.primary = takenIn past ++ d.inbound ∧
    lost.length ≤ 1 ∧ (lost ≠ [] →
      d.closing.map ClosingState.reason = some .applicationBackpressure)
  order : ((deliveredIn past).map Prod.fst).Sublist read

namespace Fed

variable [WriterIngress W] {read : List DataMessage} {past : List (DriverEffect κ)}
  {d : SessionDriver W κ}

theorem minter_step (d : SessionDriver W κ) (input : DriverInput κ) :
    (machine.step d input).1.minter = d.minter :=
  Round.Leads.minter_kept (Round.perform_performs (.start d) input)

theorem takeInbound (h : Fed read past d) : Fed read (past ++ (machine.step d .takeInbound).2)
    (machine.step d .takeInbound).1 := by
  have heffects : (machine.step d (.takeInbound :
      DriverInput κ)).2 = [.takenInbound d.inbound.head?] := rfl
  have hinbound : (machine.step d (.takeInbound : DriverInput κ)).1.inbound = d.inbound.tail := rfl
  have hdelivered : deliveredIn (past ++ (machine.step d .takeInbound).2) = deliveredIn past := by
    rw [deliveredIn_append]
    exact List.append_nil _
  obtain ⟨⟨kept, lost, hsplit, hkept, hone, hlost⟩, horder⟩ := h
  refine ⟨⟨kept, lost, hdelivered.trans hsplit, ?_, hone, hlost⟩, hdelivered ▸ horder⟩
  rw [primary_kept (minter_step d .takeInbound), hkept, takenIn_append, heffects, hinbound,
    List.append_assoc]
  cases d.inbound <;> rfl

theorem call (h : Fed read past d) (hbooked : Booked ⟨d, none, []⟩) (input : DriverInput κ) :
    Fed (read ++ input.data.toList) (past ++ (machine.step d input).2)
      (machine.step d input).1 := by
  by_cases htakes : input = .takeInbound
  · subst htakes
    rw [show (DriverInput.takeInbound : DriverInput κ).data.toList = [] from rfl, List.append_nil]
    exact h.takeInbound
  · obtain ⟨effects', heffects', -, hnone⟩ := Round.Calls.perform (.start d) htakes
    have htaken : takenIn (machine.step d input).2 = [] := by
      rw [show (machine.step d input).2 = effects' from heffects']
      exact hnone
    obtain ⟨⟨kept, lost, hsplit, hkept, hone, hlost⟩, horder⟩ := h
    rcases inbound_cases hbooked htakes with ⟨hinbound, effects, heffects, hquiet⟩ |
      ⟨hopen, effects, delivery, heffects, hdelivered, hmessage, hqueued⟩
    · have heffects : (machine.step d input).2 = effects := heffects
      have hinbound : (machine.step d input).1.inbound = d.inbound := hinbound
      have hsame : deliveredIn (past ++ (machine.step d input).2) = deliveredIn past := by
        rw [deliveredIn_append, heffects, hquiet, List.append_nil]
      refine ⟨⟨kept, lost, hsame.trans hsplit, ?_, hone, fun hsome =>
        SessionDriver.reason_kept d [input] (hlost hsome)⟩, ?_⟩
      · rw [primary_kept (minter_step d input), hkept, takenIn_append, htaken, hinbound,
          List.append_nil]
      · rw [hsame]
        exact horder.trans (List.sublist_append_left _ _)
    · have heffects : (machine.step d input).2 = effects := heffects
      have hopen : d.closing = none := hopen
      have hlast : lost = [] := by
        by_contra hsome
        have hclosing := hlost hsome
        rw [hopen] at hclosing
        cases hclosing
      have hmore : deliveredIn (past ++ (machine.step d input).2) = kept ++ [delivery] := by
        rw [deliveredIn_append, hsplit, hlast, List.append_nil, heffects, hdelivered]
      have hread : input.data.toList = [delivery.1] := by
        rw [hmessage]
        rfl
      have hkept' : kept.map (machine.step d input).1.primary =
          takenIn (past ++ (machine.step d input).2) ++ d.inbound := by
        rw [primary_kept (minter_step d input), hkept, takenIn_append, htaken, List.append_nil]
      refine ⟨?_, ?_⟩
      · rcases hqueued with hroom | ⟨hfull, hreason⟩
        · have hroom : (machine.step d input).1.inbound = d.inbound ++ [d.primary delivery] := hroom
          refine ⟨kept ++ [delivery], [], hmore.trans (List.append_nil _).symm, ?_, Nat.zero_le 1,
            fun hsome =>
            absurd rfl hsome⟩
          rw [List.map_append, hkept', hroom, List.append_assoc, List.map_singleton,
            primary_kept (minter_step d input)]
        · have hfull : (machine.step d input).1.inbound = d.inbound := hfull
          exact ⟨kept, [delivery], hmore, by rw [hkept', hfull], le_rfl, fun _ => hreason⟩
      · rw [hmore, hread, List.map_append]
        rw [hsplit, hlast, List.append_nil] at horder
        exact horder.append (.refl _)

end Fed

section

variable [WriterIngress W] (generation : ConnectionGeneration) (tokenOwner : ℕ)
  (config : SessionCoreConfig)
  (nextWriteId : Option UInt64) (nextSystemBytes : Option UInt32) (writer : W)
  (bounds : DriverBounds)

/-- **The Primaries of a generation are queued without a gap.**  Over every run of a new Driver on
any Writer: what Core delivers is in the order of the Data frames that it has been given; the
Primaries taken, with those still queued, are the first that Core has delivered, in this order; and
at most the last delivery is lost, and then the Driver closes with `ApplicationBackpressure`. -/
theorem inbound_primaries_have_no_gap (inputs : List (DriverInput κ)) :
    let driver := initial generation tokenOwner config nextWriteId nextSystemBytes writer bounds
    let past := machine.history driver inputs
    let last := machine.after driver inputs
    ((deliveredIn past).map Prod.fst).Sublist (inputs.filterMap DriverInput.data) ∧
      ∃ kept lost, deliveredIn past = kept ++ lost ∧
        kept.map last.primary = takenIn past ++ last.inbound ∧
        lost.length ≤ 1 ∧
          (lost ≠ [] → last.closing.map ClosingState.reason = some .applicationBackpressure) := by
  intro driver past last
  have hrun : Booked ⟨last, none, []⟩ ∧ Fed (inputs.filterMap DriverInput.data) past last := by
    induction inputs using List.reverseRecOn with
    | nil =>
      exact ⟨.initial _ _ _ _ _ _ _,
        ⟨[], [], rfl, rfl, Nat.zero_le 1, fun hsome => absurd rfl hsome⟩, .slnil⟩
    | append_singleton earlier input ih =>
      obtain ⟨hbooked, hfed⟩ := ih
      have hstep := hfed.call hbooked input
      rw [← machine.after_append_singleton, ← machine.history_append_singleton] at hstep
      refine ⟨?_, ?_⟩
      · show Booked ⟨machine.after driver (earlier ++ [input]), none, []⟩
        rw [machine.after_append_singleton]
        exact hbooked.call input
      · have hdata : [input].filterMap DriverInput.data = input.data.toList := by
          rw [List.filterMap_cons]
          cases input.data <;> rfl
        rw [List.filterMap_append, hdata]
        exact hstep
  exact ⟨hrun.2.order, hrun.2.queued⟩

end

end Hsms
end SecsRust
